import Arthome.Library.Settling
import Arthome.Streaming.EntitlementFacts

/-!
# The groups of a date's row

Each group of a date's row is fed like a guarded cell: a fact that states the group
writes it where the group's guard takes the new value over the kept one, and every
other fact leaves it alone. The runtime and the channel have no order of their own:
the first fact that states one writes it.
-/

namespace Arthome.Streaming

open Arthome.Core Arthome.Library

variable {γ : Type}

/-- Columns of the row that its insertion leaves null and no write stamps. -/
structure IsGroup (columns : EntitlementDate → γ) (blank : γ) : Prop where
  inserted : ∀ dateId appliedAt, columns (.inserted dateId appliedAt) = blank
  stamped : ∀ kept appliedAt, columns { kept with appliedAt } = columns kept

/-- What the row holds in a group, `blank` while there is no row. -/
def groupIn (columns : EntitlementDate → γ) (blank : γ) (row : Option EntitlementDate) : γ :=
  row.elim blank columns

section Statements

variable {columns : EntitlementDate → γ} {blank stated : γ} {takes : γ → γ → Bool}
  {set : EntitlementDate → EntitlementDate} {guard : EntitlementDate → Bool} {dateId : Uuid}
  {appliedAt : Instant} {kept : Option EntitlementDate}

/-- A statement that sets other columns leaves the group. -/
theorem IsGroup.writerOn_of_other (h : IsGroup columns blank)
    (hset : ∀ row, columns (set row) = columns row) :
    groupIn columns blank (writerOn (groupUpsert set guard dateId appliedAt) kept).1 =
      groupIn columns blank kept := by
  cases kept with
  | none => exact (hset _).trans (h.inserted dateId appliedAt)
  | some kept =>
      cases hguard : guard kept with
      | false => simp [writerOn, groupUpsert, hguard]
      | true =>
          simp only [writerOn, groupUpsert, hguard]
          exact (h.stamped _ _).trans (hset kept)

/-- A statement that sets the group feeds it, when its guard takes all that the group takes. -/
theorem IsGroup.writerOn_feed (h : IsGroup columns blank)
    (hset : ∀ row, guard row = true ∨ columns row = blank →
      columns (set row) = feed takes (columns row) (some stated))
    (hguard : ∀ row, guard row = false → takes (columns row) stated = false) :
    groupIn columns blank (writerOn (groupUpsert set guard dateId appliedAt) kept).1 =
      feed takes (groupIn columns blank kept) (some stated) := by
  cases kept with
  | none =>
      have hinserted := h.inserted dateId appliedAt
      refine (hset _ (.inr hinserted)).trans ?_
      rw [hinserted]
      rfl
  | some kept =>
      cases hkept : guard kept with
      | false =>
          simp [writerOn, groupUpsert, hkept, groupIn, feed, hguard kept hkept]
      | true =>
          simp only [writerOn, groupUpsert, hkept]
          exact (h.stamped _ _).trans (hset kept (.inl hkept))

/-- The group is left alone or becomes what is stated, and becomes it when it is blank. -/
def WritesOnce (columns : EntitlementDate → γ) (blank : γ) (stated : Option γ)
    (kept after : Option EntitlementDate) : Prop :=
  (groupIn columns blank after = groupIn columns blank kept ∨
    stated = some (groupIn columns blank after)) ∧
  ∀ value, stated = some value → groupIn columns blank kept = blank →
    groupIn columns blank after = value

theorem writesOnce_none {after : Option EntitlementDate}
    (h : groupIn columns blank after = groupIn columns blank kept) :
    WritesOnce columns blank none kept after := by
  constructor
  · exact .inl h
  · rintro value hvalue
    cases hvalue

/-- Later statements on other columns change nothing here. -/
theorem WritesOnce.of_eq {value : Option γ} {after after' : Option EntitlementDate}
    (h : WritesOnce columns blank value kept after)
    (heq : groupIn columns blank after' = groupIn columns blank after) :
    WritesOnce columns blank value kept after' := by
  unfold WritesOnce
  rw [heq]
  exact h

theorem IsGroup.writesOnce (h : IsGroup columns blank) (hset : ∀ row, columns (set row) = stated)
    (hguard : ∀ row, kept = some row → columns row = blank → guard row = true) :
    WritesOnce columns blank (some stated) kept
      (writerOn (groupUpsert set guard dateId appliedAt) kept).1 := by
  cases kept with
  | none =>
      have hafter : groupIn columns blank
          (writerOn (groupUpsert set guard dateId appliedAt) none).1 = stated := hset _
      exact ⟨.inr (congrArg some hafter.symm),
        fun _ hvalue _ => hafter.trans (Option.some.inj hvalue)⟩
  | some kept =>
      cases hkept : guard kept with
      | false =>
          simp only [writerOn, groupUpsert, hkept]
          refine ⟨.inl rfl, fun _ _ hblank => ?_⟩
          rw [hguard kept rfl hblank] at hkept
          cases hkept
      | true =>
          have hafter : groupIn columns blank
              (writerOn (groupUpsert set guard dateId appliedAt) (some kept)).1 = stated := by
            simp only [writerOn, groupUpsert, hkept]
            exact (h.stamped _ _).trans (hset kept)
          exact ⟨.inr (congrArg some hafter.symm),
            fun _ hvalue _ => hafter.trans (Option.some.inj hvalue)⟩

/-- A statement keeps what its insertion satisfies and its columns and stamp preserve. -/
theorem writerOn_invariant {P : EntitlementDate → Prop}
    (hinserted : P (set (.inserted dateId appliedAt)))
    (hset : ∀ row, P row → P { set row with appliedAt }) (hkept : ∀ row, kept = some row → P row)
    {row : EntitlementDate}
    (hrow : (writerOn (groupUpsert set guard dateId appliedAt) kept).1 = some row) : P row := by
  cases kept with
  | none => exact Option.some.inj hrow ▸ hinserted
  | some kept =>
      cases hguard : guard kept with
      | false =>
          simp only [writerOn, groupUpsert, hguard] at hrow
          exact hkept row hrow
      | true =>
          simp only [writerOn, groupUpsert, hguard] at hrow
          exact Option.some.inj hrow ▸ hset kept (hkept kept rfl)

end Statements

/-! ## The guarded groups -/

namespace EntitlementDate

def timing (row : EntitlementDate) : Option Instant × Option Instant :=
  (row.timingOccurredAt, row.startsAt)

def replay (row : EntitlementDate) : Option Instant × Option ReplayPolicy × Option ℤ :=
  (row.replayOccurredAt, row.replayPolicy, row.replayWindowHours)

def rights (row : EntitlementDate) :
    Option Instant × Option RightsScope × Option (List String) × Option BlackoutReason :=
  (row.rightsOccurredAt, row.rightsScope, row.blackoutCountries, row.blackoutReason)

def publication (row : EntitlementDate) : Option ℤ × Option PublicationState :=
  (row.publicationVersion, row.publicationState)

def outcomeDeclared (row : EntitlementDate) : Option Instant × Option DateOutcome :=
  (row.outcomeDeclaredAt, row.outcome)

theorem isGroup_timing : IsGroup timing (none, none) := ⟨fun _ _ => rfl, fun _ _ => rfl⟩

theorem isGroup_replay : IsGroup replay (none, none, none) := ⟨fun _ _ => rfl, fun _ _ => rfl⟩

theorem isGroup_rights : IsGroup rights (none, none, none, none) :=
  ⟨fun _ _ => rfl, fun _ _ => rfl⟩

theorem isGroup_publication : IsGroup publication (none, none) :=
  ⟨fun _ _ => rfl, fun _ _ => rfl⟩

theorem isGroup_outcomeDeclared : IsGroup outcomeDeclared (none, none) :=
  ⟨fun _ _ => rfl, fun _ _ => rfl⟩

theorem isGroup_runtimeMin : IsGroup runtimeMin none := ⟨fun _ _ => rfl, fun _ _ => rfl⟩

theorem isGroup_channelId : IsGroup channelId none := ⟨fun _ _ => rfl, fun _ _ => rfl⟩

end EntitlementDate

/-- A group whose first column is the instant or the version its guard compares. -/
def takesFrom {α : Type} (compare : ℤ → ℤ → Bool) (kept stated : Option ℤ × α) : Bool :=
  stated.1.all fun stated => kept.1.all fun kept => compare kept stated

def isNewerOrSame (kept stated : ℤ) : Bool := decide (kept ≤ stated)

def isNewer (kept stated : ℤ) : Bool := decide (kept < stated)

/-- A cancellation and an interruption are final. -/
def isFinal (outcome : Option DateOutcome) : Bool :=
  decide (outcome = some .cancelled) || decide (outcome = some .interrupted)

def takesOutcome (kept stated : Option Instant × Option DateOutcome) : Bool :=
  takesFrom isNewerOrSame kept stated && !isFinal kept.2

namespace DateFact

/-- The instant the fact states the timing at, and the start. -/
def timing : DateFact → Option (Option Instant × Option Instant)
  | .scheduled _ _ startsAt _ _ _ statedAt => some (some statedAt, some startsAt)
  | .rescheduled _ startsAt statedAt => some (some statedAt, some startsAt)
  | _ => none

def replay : DateFact → Option (Option Instant × Option ReplayPolicy × Option ℤ)
  | .scheduled _ _ _ _ replay _ statedAt =>
    some (some statedAt, some replay.policy, some replay.windowHours)
  | .replayPolicySet _ replay statedAt =>
    some (some statedAt, some replay.policy, some replay.windowHours)
  | _ => none

def rights : DateFact →
    Option (Option Instant × Option RightsScope × Option (List String) × Option BlackoutReason)
  | .scheduled _ _ _ _ _ rights statedAt =>
    some (some statedAt, rights.scope, some rights.blackoutCountries, rights.reason)
  | .rightsChanged _ rights statedAt =>
    some (some statedAt, rights.scope, some rights.blackoutCountries, rights.reason)
  | _ => none

def publication : DateFact → Option (Option ℤ × Option PublicationState)
  | .publicationStateChanged _ _ state version _ => some (some version, state)
  | _ => none

def outcome : DateFact → Option (Option Instant × Option DateOutcome)
  | .outcomeDeclared _ _ outcome statedAt => some (some statedAt, some outcome)
  | _ => none

theorem timing_stamp (fact : DateFact) (v : Option Instant × Option Instant)
    (h : fact.timing = some v) : v.1.isSome := by
  cases fact with
  | scheduled => exact Option.some.inj h ▸ rfl
  | rescheduled => exact Option.some.inj h ▸ rfl
  | _ => cases h

theorem replay_stamp (fact : DateFact) (v : Option Instant × Option ReplayPolicy × Option ℤ)
    (h : fact.replay = some v) : v.1.isSome := by
  cases fact with
  | scheduled => exact Option.some.inj h ▸ rfl
  | replayPolicySet => exact Option.some.inj h ▸ rfl
  | _ => cases h

theorem rights_stamp (fact : DateFact)
    (v : Option Instant × Option RightsScope × Option (List String) × Option BlackoutReason)
    (h : fact.rights = some v) : v.1.isSome := by
  cases fact with
  | scheduled => exact Option.some.inj h ▸ rfl
  | rightsChanged => exact Option.some.inj h ▸ rfl
  | _ => cases h

theorem publication_stamp (fact : DateFact) (v : Option ℤ × Option PublicationState)
    (h : fact.publication = some v) : v.1.isSome := by
  cases fact with
  | publicationStateChanged => exact Option.some.inj h ▸ rfl
  | _ => cases h

def runtimeMin : DateFact → Option (Option ℤ)
  | .scheduled _ _ _ runtimeMin _ _ _ => some (some runtimeMin)
  | _ => none

def channelId : DateFact → Option (Option Uuid)
  | .scheduled _ channelId _ _ _ _ _ => some (some channelId)
  | .publicationStateChanged _ channelId _ _ _ => some (some channelId)
  | .outcomeDeclared _ channelId _ _ => some (some channelId)
  | _ => none

end DateFact

section Feeding

variable {dateId channelId : Uuid} {startsAt statedAt appliedAt : Instant} {runtimeMin version : ℤ}
  {replay : ReplayFacts} {rights : RightsFacts} {state : Option PublicationState}
  {outcome : DateOutcome} {kept : Option EntitlementDate}

theorem takesFrom_newerOrSame {α : Type} (kept : Option Instant × α) (stated : α) :
    takesFrom isNewerOrSame kept (some statedAt, stated) = newerOrSame kept.1 statedAt := rfl

/-- The kept timing yields to a newer one as a whole. -/
theorem greatest_eq (keptAt keptStart : Option Instant) :
    (some (keptAt.elim statedAt (max statedAt)),
        if newerOrSame keptAt statedAt then some startsAt else keptStart) =
      if newerOrSame keptAt statedAt then (some statedAt, some startsAt)
      else (keptAt, keptStart) := by
  cases keptAt with
  | none => rfl
  | some kept =>
      by_cases hnewer : kept ≤ statedAt
      · simp [newerOrSame, hnewer]
      · simp [newerOrSame, hnewer, (not_le.mp hnewer).le]

theorem timing_scheduleTiming :
    groupIn EntitlementDate.timing (none, none)
        (writerOn (scheduleTiming channelId startsAt runtimeMin statedAt dateId appliedAt) kept).1 =
      feed (takesFrom isNewerOrSame) (groupIn EntitlementDate.timing (none, none) kept)
        (some (some statedAt, some startsAt)) := by
  apply EntitlementDate.isGroup_timing.writerOn_feed
  · intro row _
    simp only [EntitlementDate.timing, feed, takesFrom_newerOrSame]
    exact greatest_eq row.timingOccurredAt row.startsAt
  · intro row hguard
    rw [Bool.or_eq_false_iff] at hguard
    exact hguard.2

/-- A group set as a whole under the guard on its first column is fed. -/
theorem feed_of_guard {α : Type} {takes : Option ℤ × α → Option ℤ × α → Bool}
    {kept stated : Option ℤ × α} (h : takes kept stated = true) :
    stated = feed takes kept (some stated) := (if_pos h).symm

theorem timing_rescheduleTiming :
    groupIn EntitlementDate.timing (none, none)
        (writerOn (rescheduleTiming startsAt statedAt dateId appliedAt) kept).1 =
      feed (takesFrom isNewerOrSame) (groupIn EntitlementDate.timing (none, none) kept)
        (some (some statedAt, some startsAt)) := by
  apply EntitlementDate.isGroup_timing.writerOn_feed
  · rintro row (hguard | hblank)
    · exact feed_of_guard hguard
    · rw [hblank]
      rfl
  · exact fun _ hguard => hguard

theorem replay_setReplay :
    groupIn EntitlementDate.replay (none, none, none)
        (writerOn (setReplay replay statedAt dateId appliedAt) kept).1 =
      feed (takesFrom isNewerOrSame) (groupIn EntitlementDate.replay (none, none, none) kept)
        (some (some statedAt, some replay.policy, some replay.windowHours)) := by
  apply EntitlementDate.isGroup_replay.writerOn_feed
  · rintro row (hguard | hblank)
    · exact feed_of_guard hguard
    · rw [hblank]
      rfl
  · exact fun _ hguard => hguard

theorem rights_setRights :
    groupIn EntitlementDate.rights (none, none, none, none)
        (writerOn (setRights rights statedAt dateId appliedAt) kept).1 =
      feed (takesFrom isNewerOrSame) (groupIn EntitlementDate.rights (none, none, none, none) kept)
        (some (some statedAt, rights.scope, some rights.blackoutCountries, rights.reason)) := by
  apply EntitlementDate.isGroup_rights.writerOn_feed
  · rintro row (hguard | hblank)
    · exact feed_of_guard hguard
    · rw [hblank]
      rfl
  · exact fun _ hguard => hguard

theorem publication_setPublication :
    groupIn EntitlementDate.publication (none, none)
        (writerOn (setPublication channelId state version dateId appliedAt) kept).1 =
      feed (takesFrom isNewer) (groupIn EntitlementDate.publication (none, none) kept)
        (some (some version, state)) := by
  apply EntitlementDate.isGroup_publication.writerOn_feed
  · rintro row (hguard | hblank)
    · exact feed_of_guard hguard
    · rw [hblank]
      rfl
  · exact fun _ hguard => hguard

theorem takesOutcome_eq (kept : Option Instant × Option DateOutcome) :
    takesOutcome kept (some statedAt, some outcome) =
      (newerOrSame kept.1 statedAt && decide (kept.2 ≠ some .cancelled) &&
        decide (kept.2 ≠ some .interrupted)) := by
  obtain ⟨keptAt, keptOutcome⟩ := kept
  simp only [takesOutcome, takesFrom_newerOrSame, isFinal]
  cases keptOutcome with
  | none => simp
  | some kept => cases kept <;> simp

theorem outcome_declareOutcome :
    groupIn EntitlementDate.outcomeDeclared (none, none)
        (writerOn (declareOutcome channelId outcome statedAt dateId appliedAt) kept).1 =
      feed takesOutcome (groupIn EntitlementDate.outcomeDeclared (none, none) kept)
        (some (some statedAt, some outcome)) := by
  apply EntitlementDate.isGroup_outcomeDeclared.writerOn_feed
  · rintro row (htaken | hblank)
    · exact feed_of_guard ((takesOutcome_eq row.outcomeDeclared).trans htaken)
    · rw [hblank]
      rfl
  · exact fun row hkept => (takesOutcome_eq row.outcomeDeclared).trans hkept

end Feeding

/-! ## What a fact leaves of each group -/

namespace DateFact

variable (fact : DateFact) (appliedAt : Instant) (kept : Option EntitlementDate)

/-- The schedule's three writes, one after the other. -/
theorem applied_scheduled (dateId channelId : Uuid) (startsAt : Instant) (runtimeMin : ℤ)
    (replay : ReplayFacts) (rights : RightsFacts) (statedAt : Instant) :
    ((scheduled dateId channelId startsAt runtimeMin replay rights statedAt).applied
      appliedAt kept).1 =
      (writerOn (setRights rights statedAt dateId appliedAt)
        (writerOn (setReplay replay statedAt dateId appliedAt)
          (writerOn (scheduleTiming channelId startsAt runtimeMin statedAt dateId appliedAt)
            kept).1).1).1 := rfl

theorem timing_applied :
    groupIn EntitlementDate.timing (none, none) (fact.applied appliedAt kept).1 =
      feed (takesFrom isNewerOrSame) (groupIn EntitlementDate.timing (none, none) kept)
        fact.timing := by
  have hgroup := EntitlementDate.isGroup_timing
  cases fact with
  | scheduled =>
      rw [applied_scheduled]
      refine (hgroup.writerOn_of_other ?_).trans ((hgroup.writerOn_of_other ?_).trans ?_)
      · exact fun _ => rfl
      · exact fun _ => rfl
      · exact timing_scheduleTiming
  | rescheduled => exact timing_rescheduleTiming
  | _ =>
      apply hgroup.writerOn_of_other
      exact fun _ => rfl

theorem replay_applied :
    groupIn EntitlementDate.replay (none, none, none) (fact.applied appliedAt kept).1 =
      feed (takesFrom isNewerOrSame) (groupIn EntitlementDate.replay (none, none, none) kept)
        fact.replay := by
  have hgroup := EntitlementDate.isGroup_replay
  cases fact with
  | scheduled =>
      rw [applied_scheduled]
      refine (hgroup.writerOn_of_other ?_).trans (replay_setReplay.trans ?_)
      · exact fun _ => rfl
      · refine congrArg (fun kept => feed _ kept _) (hgroup.writerOn_of_other ?_)
        exact fun _ => rfl
  | replayPolicySet => exact replay_setReplay
  | _ =>
      apply hgroup.writerOn_of_other
      exact fun _ => rfl

theorem rights_applied :
    groupIn EntitlementDate.rights (none, none, none, none) (fact.applied appliedAt kept).1 =
      feed (takesFrom isNewerOrSame) (groupIn EntitlementDate.rights (none, none, none, none) kept)
        fact.rights := by
  have hgroup := EntitlementDate.isGroup_rights
  cases fact with
  | scheduled =>
      rw [applied_scheduled]
      refine rights_setRights.trans (congrArg (fun kept => feed _ kept _) ?_)
      refine (hgroup.writerOn_of_other ?_).trans (hgroup.writerOn_of_other ?_)
      · exact fun _ => rfl
      · exact fun _ => rfl
  | rightsChanged => exact rights_setRights
  | _ =>
      apply hgroup.writerOn_of_other
      exact fun _ => rfl

theorem publication_applied :
    groupIn EntitlementDate.publication (none, none) (fact.applied appliedAt kept).1 =
      feed (takesFrom isNewer) (groupIn EntitlementDate.publication (none, none) kept)
        fact.publication := by
  have hgroup := EntitlementDate.isGroup_publication
  cases fact with
  | scheduled =>
      rw [applied_scheduled]
      refine (hgroup.writerOn_of_other ?_).trans
        ((hgroup.writerOn_of_other ?_).trans (hgroup.writerOn_of_other ?_))
      · exact fun _ => rfl
      · exact fun _ => rfl
      · exact fun _ => rfl
  | publicationStateChanged => exact publication_setPublication
  | _ =>
      apply hgroup.writerOn_of_other
      exact fun _ => rfl

theorem outcome_applied :
    groupIn EntitlementDate.outcomeDeclared (none, none) (fact.applied appliedAt kept).1 =
      feed takesOutcome (groupIn EntitlementDate.outcomeDeclared (none, none) kept)
        fact.outcome := by
  have hgroup := EntitlementDate.isGroup_outcomeDeclared
  cases fact with
  | scheduled =>
      rw [applied_scheduled]
      refine (hgroup.writerOn_of_other ?_).trans
        ((hgroup.writerOn_of_other ?_).trans (hgroup.writerOn_of_other ?_))
      · exact fun _ => rfl
      · exact fun _ => rfl
      · exact fun _ => rfl
  | outcomeDeclared => exact outcome_declareOutcome
  | _ =>
      apply hgroup.writerOn_of_other
      exact fun _ => rfl

/-- The schedule's later writes leave the columns of the first one. -/
theorem applied_scheduled_group {γ : Type} {columns : EntitlementDate → γ} {blank : γ}
    (hgroup : IsGroup columns blank)
    (hreplay : ∀ row policy windowHours occurredAt,
      columns { row with
        replayPolicy := policy, replayWindowHours := windowHours, replayOccurredAt := occurredAt } =
        columns row)
    (hrights : ∀ row scope countries reason occurredAt,
      columns { row with
        rightsScope := scope
        blackoutCountries := countries
        blackoutReason := reason
        rightsOccurredAt := occurredAt } = columns row)
    (dateId channelId : Uuid) (startsAt : Instant) (runtimeMin : ℤ)
    (replay : ReplayFacts) (rights : RightsFacts) (statedAt : Instant) :
    groupIn columns blank
        ((scheduled dateId channelId startsAt runtimeMin replay rights statedAt).applied
          appliedAt kept).1 =
      groupIn columns blank
        (writerOn (scheduleTiming channelId startsAt runtimeMin statedAt dateId appliedAt)
          kept).1 := by
  rw [applied_scheduled]
  refine (hgroup.writerOn_of_other ?_).trans (hgroup.writerOn_of_other ?_)
  · exact fun row => hrights row _ _ _ _
  · exact fun row => hreplay row _ _ _

theorem runtimeMin_applied :
    WritesOnce EntitlementDate.runtimeMin none fact.runtimeMin kept
      (fact.applied appliedAt kept).1 := by
  have hgroup := EntitlementDate.isGroup_runtimeMin
  cases fact with
  | scheduled dateId channelId startsAt runtimeMin replay rights statedAt =>
      refine WritesOnce.of_eq ?_ (applied_scheduled_group _ _ hgroup
        (fun _ _ _ _ => rfl) (fun _ _ _ _ _ => rfl) _ _ _ _ _ _ _)
      apply hgroup.writesOnce
      · exact fun _ => rfl
      · intro row _ hnone
        rw [Bool.or_eq_true, hnone]
        exact .inl rfl
  | _ =>
      apply writesOnce_none
      apply hgroup.writerOn_of_other
      exact fun _ => rfl

end DateFact

/-! ## The channel and the row itself -/

/-- A row without its channel has none of what states the channel. -/
def EntitlementDate.ChannelKnown (row : EntitlementDate) : Prop :=
  row.channelId = none →
    row.runtimeMin = none ∧ row.publication = (none, none) ∧ row.outcomeDeclared = (none, none)

namespace DateFact

variable (fact : DateFact) (appliedAt : Instant) {kept : Option EntitlementDate}

theorem channelId_applied (hkept : ∀ row, kept = some row → row.ChannelKnown) :
    WritesOnce EntitlementDate.channelId none fact.channelId kept
      (fact.applied appliedAt kept).1 := by
  have hgroup := EntitlementDate.isGroup_channelId
  cases fact with
  | scheduled dateId channelId startsAt runtimeMin replay rights statedAt =>
      refine WritesOnce.of_eq ?_ (applied_scheduled_group _ _ hgroup
        (fun _ _ _ _ => rfl) (fun _ _ _ _ _ => rfl) _ _ _ _ _ _ _)
      apply hgroup.writesOnce
      · exact fun _ => rfl
      · intro row hrow hnone
        obtain ⟨hruntime, -, -⟩ := hkept row hrow hnone
        rw [Bool.or_eq_true, hruntime]
        exact .inl rfl
  | publicationStateChanged dateId channelId state version statedAt =>
      apply hgroup.writesOnce
      · exact fun _ => rfl
      · intro row hrow hnone
        obtain ⟨-, hpublication, -⟩ := hkept row hrow hnone
        have hversion : row.publicationVersion = none := congrArg Prod.fst hpublication
        rw [hversion]
        rfl
  | outcomeDeclared dateId channelId outcome statedAt =>
      apply hgroup.writesOnce
      · exact fun _ => rfl
      · intro row hrow hnone
        obtain ⟨-, -, houtcome⟩ := hkept row hrow hnone
        have hdeclaredAt : row.outcomeDeclaredAt = none := congrArg Prod.fst houtcome
        have hdeclared : row.outcome = none := congrArg Prod.snd houtcome
        rw [hdeclaredAt, hdeclared]
        rfl
  | _ =>
      apply writesOnce_none
      apply hgroup.writerOn_of_other
      exact fun _ => rfl

/-- What every statement's write keeps, a fact keeps. -/
theorem applied_invariant {P : EntitlementDate → Prop}
    (hinserted : P (.inserted fact.dateId appliedAt))
    (hstamped : ∀ row, P row → P { row with appliedAt })
    (htiming : ∀ row startsAt occurredAt, P row →
      P { row with startsAt, timingOccurredAt := occurredAt })
    (hschedule : ∀ row channelId startsAt runtimeMin occurredAt, P row →
      P { row with
        channelId := some channelId, startsAt, runtimeMin, timingOccurredAt := occurredAt })
    (hreplay : ∀ row policy windowHours occurredAt, P row →
      P { row with
        replayPolicy := policy, replayWindowHours := windowHours, replayOccurredAt := occurredAt })
    (hrights : ∀ row scope countries reason occurredAt, P row →
      P { row with
        rightsScope := scope
        blackoutCountries := countries
        blackoutReason := reason
        rightsOccurredAt := occurredAt })
    (hpublication : ∀ row channelId state version, P row →
      P { row with
        channelId := some channelId, publicationState := state, publicationVersion := version })
    (houtcome : ∀ row channelId outcome declaredAt, P row →
      P { row with channelId := some channelId, outcome, outcomeDeclaredAt := declaredAt })
    (hkept : ∀ row, kept = some row → P row) {row : EntitlementDate}
    (hrow : (fact.applied appliedAt kept).1 = some row) : P row := by
  cases fact with
  | scheduled dateId channelId startsAt runtimeMin replay rights statedAt =>
      rw [applied_scheduled] at hrow
      refine writerOn_invariant ?_ ?_ ?_ hrow
      · exact hrights _ _ _ _ _ hinserted
      · exact fun row h => hstamped _ (hrights row _ _ _ _ h)
      · intro row hrow
        refine writerOn_invariant ?_ ?_ ?_ hrow
        · exact hreplay _ _ _ _ hinserted
        · exact fun row h => hstamped _ (hreplay row _ _ _ h)
        · intro row hrow
          refine writerOn_invariant ?_ ?_ hkept hrow
          · exact hschedule _ _ _ _ _ hinserted
          · exact fun row h => hstamped _ (hschedule row _ _ _ _ h)
  | rescheduled =>
      refine writerOn_invariant ?_ ?_ hkept hrow
      · exact htiming _ _ _ hinserted
      · exact fun row h => hstamped _ (htiming row _ _ h)
  | replayPolicySet =>
      refine writerOn_invariant ?_ ?_ hkept hrow
      · exact hreplay _ _ _ _ hinserted
      · exact fun row h => hstamped _ (hreplay row _ _ _ h)
  | rightsChanged =>
      refine writerOn_invariant ?_ ?_ hkept hrow
      · exact hrights _ _ _ _ _ hinserted
      · exact fun row h => hstamped _ (hrights row _ _ _ _ h)
  | publicationStateChanged =>
      refine writerOn_invariant ?_ ?_ hkept hrow
      · exact hpublication _ _ _ _ hinserted
      · exact fun row h => hstamped _ (hpublication row _ _ _ h)
  | outcomeDeclared =>
      refine writerOn_invariant ?_ ?_ hkept hrow
      · exact houtcome _ _ _ _ hinserted
      · exact fun row h => hstamped _ (houtcome row _ _ _ h)

theorem applied_channelKnown (hkept : ∀ row, kept = some row → row.ChannelKnown)
    {row : EntitlementDate} (hrow : (fact.applied appliedAt kept).1 = some row) :
    row.ChannelKnown := by
  refine applied_invariant fact appliedAt (fun _ => ⟨rfl, rfl, rfl⟩) ?_ ?_ ?_ ?_ ?_ ?_ ?_ hkept hrow
  · exact fun _ h => h
  · exact fun _ _ _ h => h
  · rintro _ _ _ _ _ _ hnone
    cases hnone
  · exact fun _ _ _ _ h => h
  · exact fun _ _ _ _ _ h => h
  · rintro _ _ _ _ _ hnone
    cases hnone
  · rintro _ _ _ _ _ hnone
    cases hnone

theorem applied_dateId (hkept : ∀ row, kept = some row → row.dateId = fact.dateId)
    {row : EntitlementDate} (hrow : (fact.applied appliedAt kept).1 = some row) :
    row.dateId = fact.dateId := by
  refine applied_invariant (P := fun row => row.dateId = fact.dateId) fact appliedAt rfl
    ?_ ?_ ?_ ?_ ?_ ?_ ?_ hkept hrow
  · exact fun _ h => h
  · exact fun _ _ _ h => h
  · exact fun _ _ _ _ _ h => h
  · exact fun _ _ _ _ h => h
  · exact fun _ _ _ _ _ h => h
  · exact fun _ _ _ _ h => h
  · exact fun _ _ _ _ h => h

/-- A fact leaves a row. -/
theorem applied_isSome : (fact.applied appliedAt kept).1.isSome := by
  have hwriter : ∀ (set guard : _) (dateId : Uuid) (kept : Option EntitlementDate),
      (writerOn (groupUpsert set guard dateId appliedAt) kept).1.isSome := by
    intro set guard dateId kept
    cases kept with
    | none => rfl
    | some kept => cases hguard : guard kept <;> simp [writerOn, groupUpsert, hguard]
  cases fact with
  | scheduled => exact hwriter _ _ _ _
  | _ => exact hwriter _ _ _ _

end DateFact

end Arthome.Streaming
