import Arthome.Messaging.Claims
import Mathlib

/-!
# The subscription projection

What an account's subscription opens is kept from the facts ticketing states about it, each
with the instant it was stated at and, from some time on, ticketing's version of the
subscription. A fact is taken over the row by its version when both carry one, by its
instant otherwise. The version the row carries may be that of an earlier fact than the one
it keeps.
-/

namespace Arthome.Streaming

open Arthome.Core Arthome.Messaging

inductive PlanTier where
  | free
  | pass
  | premium
  deriving Repr, DecidableEq

inductive SubscriptionState where
  | active
  | pastDue
  | cancelled
  | trialing
  deriving Repr, DecidableEq

inductive PlanOpening where
  | browse
  | trailers
  | freeDates
  | replays
  | noAds
  | oneLiveMonth
  | allLives
  | multiScreen
  | archive
  deriving Repr, DecidableEq

/-- What a fact states of the subscription. -/
structure SubscriptionTerms where
  plan : Option PlanTier
  state : Option SubscriptionState
  openings : List PlanOpening
  /-- The end of the last paid period. -/
  paidThrough : Option Instant
  deriving Repr, DecidableEq

/-- `ticketing.subscription.changed.v1`. -/
structure SubscriptionFact where
  accountId : Uuid
  terms : SubscriptionTerms
  /-- Ticketing's version after the change, absent when the wire left it unset. -/
  version : Option ℤ
  statedAt : Instant
  deriving Repr, DecidableEq

/-- An account's row. -/
structure EntitlementSubscription where
  terms : SubscriptionTerms
  version : Option ℤ
  occurredAt : Instant
  appliedAt : Instant
  deriving Repr, DecidableEq

/-- The row gives way to the fact. -/
def EntitlementSubscription.givesWayTo (kept : EntitlementSubscription) (fact : SubscriptionFact) :
    Bool :=
  match fact.version, kept.version with
  | some version, some keptVersion => decide (keptVersion < version)
  | _, _ => decide (kept.occurredAt ≤ fact.statedAt)

/-- `RECORD_SUBSCRIPTION`: the row written, nothing when the one kept stays. -/
def recordSubscription (row : Option EntitlementSubscription) (fact : SubscriptionFact)
    (appliedAt : Instant) : Option EntitlementSubscription :=
  match row with
  | none => some ⟨fact.terms, fact.version, fact.statedAt, appliedAt⟩
  | some kept =>
    if kept.givesWayTo fact then
      some ⟨fact.terms, fact.version.or kept.version, max fact.statedAt kept.occurredAt, appliedAt⟩
    else none

structure SubscriptionDb where
  processed : List Uuid
  rows : Uuid → Option EntitlementSubscription

namespace SubscriptionDb

def empty : SubscriptionDb := ⟨[], fun _ => none⟩

def write (db : SubscriptionDb) (processed : List Uuid) (accountId : Uuid)
    (row : EntitlementSubscription) : SubscriptionDb :=
  ⟨processed, Function.update db.rows accountId (some row)⟩

@[simp] theorem processed_write (db : SubscriptionDb) (processed : List Uuid) (accountId : Uuid)
    (row : EntitlementSubscription) : (db.write processed accountId row).processed = processed := rfl

@[simp] theorem rows_write (db : SubscriptionDb) (processed : List Uuid) (accountId : Uuid)
    (row : EntitlementSubscription) :
    (db.write processed accountId row).rows accountId = some row := Function.update_self _ _ _

/-- The fact of a message, recorded once. -/
def execute (db : SubscriptionDb) (messageId : Uuid) (fact : SubscriptionFact)
    (appliedAt : Instant) : SubscriptionDb × Outcome :=
  match claimMessage db.processed messageId with
  | none => (db, .duplicate)
  | some processed =>
    match recordSubscription (db.rows fact.accountId) fact appliedAt with
    | some row => (db.write processed fact.accountId row, .applied)
    | none => (⟨processed, db.rows⟩, .superseded)

end SubscriptionDb

structure SubscriptionMessage where
  messageId : Uuid
  fact : SubscriptionFact
  deriving Repr, DecidableEq

/-- Messages recorded one after the other, each at the instant it is applied at. -/
def recorded (db : SubscriptionDb) (deliveries : List (SubscriptionMessage × Instant)) :
    SubscriptionDb :=
  deliveries.foldl (fun db delivery =>
    (db.execute delivery.1.messageId delivery.1.fact delivery.2).1) db

/-- What ticketing states about one account: no two messages share an id or an instant, and a
later fact carries a higher version than an earlier one that carries one. -/
structure SubscriptionStated (accountId : Uuid) (stated : List SubscriptionMessage) : Prop where
  account : ∀ m ∈ stated, m.fact.accountId = accountId
  ids : ∀ m ∈ stated, ∀ m' ∈ stated, m.messageId = m'.messageId → m = m'
  instants : ∀ m ∈ stated, ∀ m' ∈ stated, m.fact.statedAt = m'.fact.statedAt → m = m'
  versions : ∀ m ∈ stated, ∀ m' ∈ stated, ∀ v v', m.fact.version = some v →
    m'.fact.version = some v' → m.fact.statedAt < m'.fact.statedAt → v < v'

/-- No fact was stated later. -/
def IsLatestFact (stated : List SubscriptionMessage) (latest : SubscriptionMessage) : Prop :=
  latest ∈ stated ∧ ∀ m ∈ stated, m.fact.statedAt ≤ latest.fact.statedAt

/-- No fact carries a higher version. -/
def IsLastVersioned (stated : List SubscriptionMessage) (last : SubscriptionMessage) : Prop :=
  last ∈ stated ∧ ∃ version, last.fact.version = some version ∧
    ∀ m ∈ stated, ∀ v, m.fact.version = some v → v ≤ version

/-- What the row says of the messages delivered. -/
structure Recorded (seen : List SubscriptionMessage) (accountId : Uuid) (db : SubscriptionDb) :
    Prop where
  processed : ∀ id, id ∈ db.processed ↔ ∃ m ∈ seen, m.messageId = id
  nothing : db.rows accountId = none → seen = []
  latest : ∀ kept, db.rows accountId = some kept →
    (∀ m ∈ seen, m.fact.statedAt ≤ kept.occurredAt) ∧
      ∃ m ∈ seen, m.fact.statedAt = kept.occurredAt
  version : ∀ kept k, db.rows accountId = some kept → kept.version = some k →
    (∃ m ∈ seen, m.fact.version = some k) ∧ ∀ m ∈ seen, ∀ v, m.fact.version = some v → v ≤ k

section Deliveries

variable {accountId : Uuid} {stated seen : List SubscriptionMessage} {db : SubscriptionDb}
  {m latest last : SubscriptionMessage} {appliedAt : Instant}

/-- What a delivery does: nothing the second time, a row written, or the row kept. -/
inductive SubscriptionDelivery (accountId : Uuid) (db : SubscriptionDb) (m : SubscriptionMessage)
    (appliedAt : Instant) : SubscriptionDb → Prop
  | duplicate : m.messageId ∈ db.processed → SubscriptionDelivery accountId db m appliedAt db
  | opened : m.messageId ∉ db.processed → db.rows accountId = none →
      SubscriptionDelivery accountId db m appliedAt (db.write (m.messageId :: db.processed) accountId
        ⟨m.fact.terms, m.fact.version, m.fact.statedAt, appliedAt⟩)
  | taken (kept : EntitlementSubscription) : m.messageId ∉ db.processed →
      db.rows accountId = some kept → kept.givesWayTo m.fact = true →
      SubscriptionDelivery accountId db m appliedAt (db.write (m.messageId :: db.processed) accountId
        ⟨m.fact.terms, m.fact.version.or kept.version, max m.fact.statedAt kept.occurredAt,
          appliedAt⟩)
  | superseded (kept : EntitlementSubscription) : m.messageId ∉ db.processed →
      db.rows accountId = some kept → kept.givesWayTo m.fact = false →
      SubscriptionDelivery accountId db m appliedAt ⟨m.messageId :: db.processed, db.rows⟩

theorem execute_delivery (haccount : m.fact.accountId = accountId) :
    SubscriptionDelivery accountId db m appliedAt (db.execute m.messageId m.fact appliedAt).1 := by
  unfold SubscriptionDb.execute
  cases hclaim : claimMessage db.processed m.messageId with
  | none => exact .duplicate (claimMessage_eq_none.mp hclaim)
  | some processed =>
      obtain ⟨hnew, rfl⟩ := claimMessage_eq_some.mp hclaim
      rw [haccount]
      cases hrow : db.rows accountId with
      | none => exact .opened hnew hrow
      | some kept =>
          cases htakes : kept.givesWayTo m.fact with
          | true =>
              simp only [recordSubscription, htakes, if_true]
              exact .taken kept hnew hrow htakes
          | false =>
              simp only [recordSubscription, htakes, Bool.false_eq_true, if_false]
              exact .superseded kept hnew hrow htakes

theorem givesWayTo_iff {kept : EntitlementSubscription} {fact : SubscriptionFact} :
    kept.givesWayTo fact = true ↔
      (∃ v k, fact.version = some v ∧ kept.version = some k ∧ k < v) ∨
        ((fact.version = none ∨ kept.version = none) ∧ kept.occurredAt ≤ fact.statedAt) := by
  unfold EntitlementSubscription.givesWayTo
  cases fact.version with
  | none => simp
  | some v =>
      cases kept.version with
      | none => simp
      | some k => simp

/-- Every delivery keeps what the row says. -/
theorem Recorded.deliver {db' : SubscriptionDb} (hstated : SubscriptionStated accountId stated)
    (hseen : seen ⊆ stated) (hm : m ∈ stated) (h : Recorded seen accountId db)
    (hdelivery : SubscriptionDelivery accountId db m appliedAt db') :
    Recorded (seen ++ [m]) accountId db' := by
  have hclaimed : ∀ id, id ∈ m.messageId :: db.processed ↔
      ∃ m' ∈ seen ++ [m], m'.messageId = id := by
    intro id
    rw [List.mem_cons, h.processed]
    simp only [List.mem_append, List.mem_singleton, or_and_right, exists_or, exists_eq_left]
    rw [or_comm, eq_comm]
  cases hdelivery with
  | duplicate hdup =>
      obtain ⟨m', hm', hid⟩ := (h.processed _).mp hdup
      have hsame : m' = m := hstated.ids m' (hseen hm') m hm hid
      rw [hsame] at hm'
      have hmem : ∀ m', m' ∈ seen ++ [m] ↔ m' ∈ seen := by
        intro m'
        rw [List.mem_append, List.mem_singleton, or_iff_left_of_imp]
        rintro rfl
        exact hm'
      refine ⟨?_, ?_, ?_, ?_⟩
      · intro id
        simp only [hmem]
        exact h.processed id
      · intro hnone
        rw [h.nothing hnone] at hm'
        cases hm'
      · simp only [hmem]
        exact h.latest
      · simp only [hmem]
        exact h.version
  | opened hnew hnone =>
      rw [h.nothing hnone] at hclaimed ⊢
      refine ⟨hclaimed, by simp, ?_, ?_⟩
      · intro kept hkept
        rw [SubscriptionDb.rows_write] at hkept
        cases hkept
        simp
      · intro kept k hkept hk
        rw [SubscriptionDb.rows_write] at hkept
        cases hkept
        refine ⟨⟨m, by simp, hk⟩, ?_⟩
        intro m' hm' v hv
        rw [List.nil_append, List.mem_singleton] at hm'
        have hsame : some v = some k := by
          rw [← hv, hm']
          exact hk
        exact (Option.some.inj hsame).le
  | taken kept hnew hkept htakes =>
      obtain ⟨hlatest, m₀, hm₀, hsame⟩ := h.latest kept hkept
      refine ⟨hclaimed, by simp, ?_, ?_⟩
      · intro kept' hkept'
        rw [SubscriptionDb.rows_write] at hkept'
        cases hkept'
        dsimp only
        constructor
        · intro m' hm'
          rcases List.mem_append.mp hm' with hm' | hm'
          · exact (hlatest m' hm').trans (le_max_right _ _)
          · rw [List.mem_singleton.mp hm']
            exact le_max_left _ _
        · rcases le_total kept.occurredAt m.fact.statedAt with hle | hle
          · exact ⟨m, by simp, (max_eq_left hle).symm⟩
          · exact ⟨m₀, by simp [hm₀], hsame.trans (max_eq_right hle).symm⟩
      · intro kept' k hkept' hk
        rw [SubscriptionDb.rows_write] at hkept'
        cases hkept'
        dsimp only at hk
        -- The versions seen are below the one the row now carries, by the versions or the instants.
        cases hv : m.fact.version with
        | none =>
            rw [hv, Option.none_or] at hk
            obtain ⟨⟨m', hm', hk'⟩, hbelow⟩ := h.version kept k hkept hk
            refine ⟨⟨m', by simp [hm'], hk'⟩, ?_⟩
            intro m' hm' v hv'
            rcases List.mem_append.mp hm' with hm' | hm'
            · exact hbelow m' hm' v hv'
            · rw [List.mem_singleton.mp hm', hv] at hv'
              cases hv'
        | some v =>
            rw [hv, Option.some_or] at hk
            cases hk
            refine ⟨⟨m, by simp, hv⟩, ?_⟩
            intro m' hm' v' hv'
            rcases List.mem_append.mp hm' with hm' | hm'
            · rcases givesWayTo_iff.mp htakes with ⟨w, k, hw, hk, hlt⟩ | ⟨hnone, hle⟩
              · rw [hv] at hw
                cases hw
                exact ((h.version kept k hkept hk).2 m' hm' v' hv').trans hlt.le
              · have hbefore := (hlatest m' hm').trans hle
                rcases hbefore.lt_or_eq with hlt | heq
                · exact (hstated.versions m' (hseen hm') m hm v' _ hv' hv hlt).le
                · rw [hstated.instants m' (hseen hm') m hm heq, hv] at hv'
                  exact (Option.some.inj hv').symm.le
            · rw [List.mem_singleton.mp hm', hv] at hv'
              exact (Option.some.inj hv').symm.le
  | superseded kept hnew hkept htakes =>
      have hstays := Bool.eq_false_iff.mp htakes
      obtain ⟨hlatest, m₀, hm₀, hsame⟩ := h.latest kept hkept
      have hrow : db.rows accountId ≠ none := by
        rw [hkept]
        exact Option.some_ne_none kept
      refine ⟨hclaimed, fun hnone => absurd hnone hrow, ?_, ?_⟩
      · intro kept' hkept'
        rw [hkept] at hkept'
        cases hkept'
        refine ⟨?_, m₀, by simp [hm₀], hsame⟩
        intro m' hm'
        rcases List.mem_append.mp hm' with hm' | hm'
        · exact hlatest m' hm'
        · rw [List.mem_singleton.mp hm']
          by_contra hlater
          rw [not_le] at hlater
          apply hstays
          rw [givesWayTo_iff]
          cases hv : m.fact.version with
          | none => exact .inr ⟨.inl rfl, hlater.le⟩
          | some v =>
              cases hk : kept.version with
              | none => exact .inr ⟨.inr rfl, hlater.le⟩
              | some k =>
                  obtain ⟨⟨m', hm', hk'⟩, -⟩ := h.version kept k hkept hk
                  exact .inl ⟨v, k, rfl, rfl, hstated.versions m' (hseen hm') m hm k v hk' hv
                    ((hlatest m' hm').trans_lt hlater)⟩
      · intro kept' k hkept' hk
        rw [hkept] at hkept'
        cases hkept'
        obtain ⟨⟨m', hm', hk'⟩, hbelow⟩ := h.version kept k hkept hk
        refine ⟨⟨m', by simp [hm'], hk'⟩, ?_⟩
        intro m' hm' v hv
        rcases List.mem_append.mp hm' with hm' | hm'
        · exact hbelow m' hm' v hv
        · rw [List.mem_singleton.mp hm'] at hv
          by_contra hlater
          exact hstays (givesWayTo_iff.mpr (.inl ⟨v, k, hv, hk, not_le.mp hlater⟩))

/-- The row carries a version, and the terms of the last versioned fact once that one is delivered,
though the latest fact was delivered. -/
structure Overruled (stated seen : List SubscriptionMessage) (accountId : Uuid)
    (latest : SubscriptionMessage) (db : SubscriptionDb) : Prop where
  latest : latest ∈ seen
  row : ∃ kept k, db.rows accountId = some kept ∧ kept.version = some k ∧
    ∀ last ∈ seen, IsLastVersioned stated last → kept.terms = last.fact.terms

/-- A fact versioned above all those delivered is taken over a row that carries a version. -/
theorem givesWayTo_last {kept : EntitlementSubscription} {k : ℤ}
    (hstated : SubscriptionStated accountId stated) (hseen : seen ⊆ stated)
    (h : Recorded seen accountId db) (hkept : db.rows accountId = some kept)
    (hk : kept.version = some k) (hlast : IsLastVersioned stated last) (hnew : last ∉ seen) :
    kept.givesWayTo last.fact = true := by
  obtain ⟨hmem, v, hv, hmax⟩ := hlast
  obtain ⟨⟨m', hm', hk'⟩, -⟩ := h.version kept k hkept hk
  refine givesWayTo_iff.mpr (.inl ⟨v, k, hv, hk, ?_⟩)
  refine lt_of_le_of_ne (hmax m' (hseen hm') k hk') ?_
  rintro rfl
  -- Two facts of one version are one fact.
  have hsame : m' = last := by
    rcases lt_trichotomy m'.fact.statedAt last.fact.statedAt with hlt | heq | hgt
    · exact absurd (hstated.versions m' (hseen hm') last hmem k k hk' hv hlt) (lt_irrefl k)
    · exact hstated.instants m' (hseen hm') last hmem heq
    · exact absurd (hstated.versions last hmem m' (hseen hm') k k hv hk' hgt) (lt_irrefl k)
  exact hnew (hsame ▸ hm')

/-- Once the latest fact is delivered, only a version takes another one over the row, and not over
the last versioned fact. -/
theorem version_of_taken {kept : EntitlementSubscription}
    (hstated : SubscriptionStated accountId stated) (hm : m ∈ stated)
    (h : Recorded seen accountId db) (hlatest : IsLatestFact stated latest)
    (hthere : latest ∈ seen) (hnew : m ∉ seen) (hkept : db.rows accountId = some kept)
    (htakes : kept.givesWayTo m.fact = true) :
    ∃ v k, m.fact.version = some v ∧ kept.version = some k ∧ k < v := by
  rcases givesWayTo_iff.mp htakes with hversion | ⟨-, hle⟩
  · exact hversion
  · have hafter := ((h.latest kept hkept).1 latest hthere).trans hle
    have hsame := hstated.instants m hm latest hlatest.1 (le_antisymm (hlatest.2 m hm) hafter)
    exact absurd (hsame ▸ hthere) hnew

theorem Overruled.deliver {db' : SubscriptionDb} (hstated : SubscriptionStated accountId stated)
    (hseen : seen ⊆ stated) (hm : m ∈ stated) (h : Recorded seen accountId db)
    (hlatest : IsLatestFact stated latest) (hover : Overruled stated seen accountId latest db)
    (hdelivery : SubscriptionDelivery accountId db m appliedAt db') :
    Overruled stated (seen ++ [m]) accountId latest db' := by
  obtain ⟨hthere, kept, k, hkept, hk, hterms⟩ := hover
  refine ⟨List.mem_append_left _ hthere, ?_⟩
  cases hdelivery with
  | duplicate hdup =>
      obtain ⟨m', hm', hid⟩ := (h.processed _).mp hdup
      have hsame : m' = m := hstated.ids m' (hseen hm') m hm hid
      refine ⟨kept, k, hkept, hk, fun last hlast => hterms last ?_⟩
      rcases List.mem_append.mp hlast with hlast | hlast
      · exact hlast
      · rw [List.mem_singleton.mp hlast, ← hsame]
        exact hm'
  | opened hnew hnone =>
      rw [hkept] at hnone
      cases hnone
  | taken kept' hnew hkept' htakes =>
      rw [hkept] at hkept'
      cases hkept'
      have hnotseen : m ∉ seen := fun hmem => hnew ((h.processed _).mpr ⟨m, hmem, rfl⟩)
      obtain ⟨v, k', hv, hk', hlt⟩ :=
        version_of_taken hstated hm h hlatest hthere hnotseen hkept htakes
      refine ⟨_, v, SubscriptionDb.rows_write _ _ _ _, by rw [hv]; rfl, fun last hlast htop => ?_⟩
      rcases List.mem_append.mp hlast with hlast | hlast
      · obtain ⟨-, top, htopv, hmax⟩ := htop
        have hbelow := (h.version kept k' hkept hk').2 last hlast top htopv
        exact absurd (hmax m hm v hv) (not_le.mpr (hbelow.trans_lt hlt))
      · rw [List.mem_singleton.mp hlast]
  | superseded kept' hnew hkept' htakes =>
      rw [hkept] at hkept'
      cases hkept'
      refine ⟨kept, k, hkept, hk, fun last hlast htop => ?_⟩
      rcases List.mem_append.mp hlast with hlast | hlast
      · exact hterms last hlast htop
      · have hsame := List.mem_singleton.mp hlast
        have hnotseen : m ∉ seen := fun hmem => hnew ((h.processed _).mpr ⟨m, hmem, rfl⟩)
        have hwins := givesWayTo_last hstated hseen h hkept hk htop (hsame ▸ hnotseen)
        rw [hsame, htakes] at hwins
        cases hwins

/-- Once the latest fact is delivered the row keeps what it states, unless the fact carries no
version and two that do were delivered. -/
def Decided (stated seen : List SubscriptionMessage) (accountId : Uuid)
    (latest : SubscriptionMessage) (db : SubscriptionDb) : Prop :=
  latest ∈ seen →
    (∃ kept, db.rows accountId = some kept ∧ kept.terms = latest.fact.terms) ∨
      (Overruled stated seen accountId latest db ∧ latest.fact.version = none ∧
        ∃ a ∈ seen, ∃ b ∈ seen, a ≠ b ∧ a.fact.version.isSome = true ∧ b.fact.version.isSome = true)

theorem Decided.deliver {db' : SubscriptionDb} (hstated : SubscriptionStated accountId stated)
    (hseen : seen ⊆ stated) (hm : m ∈ stated) (h : Recorded seen accountId db)
    (hlatest : IsLatestFact stated latest) (hdecided : Decided stated seen accountId latest db)
    (hdelivery : SubscriptionDelivery accountId db m appliedAt db') :
    Decided stated (seen ++ [m]) accountId latest db' := by
  intro hthere'
  by_cases hthere : latest ∈ seen
  · rcases hdecided hthere with ⟨kept, hkept, hterms⟩ | ⟨hover, hnone, a, ha, b, hb, htwo⟩
    · cases hdelivery with
      | duplicate hdup => exact .inl ⟨kept, hkept, hterms⟩
      | opened hnew hnothing =>
          rw [hkept] at hnothing
          cases hnothing
      | superseded kept' hnew hkept' htakes => exact .inl ⟨kept, hkept, hterms⟩
      | taken kept' hnew hkept' htakes =>
          rw [hkept] at hkept'
          cases hkept'
          have hnotseen : m ∉ seen := fun hmem => hnew ((h.processed _).mpr ⟨m, hmem, rfl⟩)
          obtain ⟨v, k, hv, hk, hlt⟩ :=
            version_of_taken hstated hm h hlatest hthere hnotseen hkept htakes
          obtain ⟨⟨m', hm', hk'⟩, hbelow⟩ := h.version kept k hkept hk
          refine .inr ⟨⟨hthere', _, v, SubscriptionDb.rows_write _ _ _ _, by rw [hv]; rfl, ?_⟩, ?_,
            m', by simp [hm'], m, by simp, ?_, by simp [hk'], by simp [hv]⟩
          · intro last hlast htop
            rcases List.mem_append.mp hlast with hlast | hlast
            · obtain ⟨-, top, htopv, hmax⟩ := htop
              exact absurd (hmax m hm v hv)
                (not_le.mpr ((hbelow last hlast top htopv).trans_lt hlt))
            · rw [List.mem_singleton.mp hlast]
          · -- A versioned latest fact would be above the version taken.
            cases hversion : latest.fact.version with
            | none => rfl
            | some w =>
                have hne : m.fact.statedAt ≠ latest.fact.statedAt := fun hsame =>
                  hnotseen (hstated.instants m hm latest hlatest.1 hsame ▸ hthere)
                have hbefore := lt_of_le_of_ne (hlatest.2 m hm) hne
                have habove := hstated.versions m hm latest hlatest.1 v w hv hversion hbefore
                exact absurd (hbelow latest hthere w hversion) (not_le.mpr (hlt.trans habove))
          · rintro rfl
            exact hnotseen hm'
    · exact .inr ⟨hover.deliver hstated hseen hm h hlatest hdelivery, hnone, a,
        List.mem_append_left _ ha, b, List.mem_append_left _ hb, htwo⟩
  · have hsame : latest = m := by
      rcases List.mem_append.mp hthere' with hmem | hmem
      · exact absurd hmem hthere
      · exact List.mem_singleton.mp hmem
    rw [← hsame] at hdelivery
    left
    cases hdelivery with
    | duplicate hdup =>
        obtain ⟨m', hm', hid⟩ := (h.processed _).mp hdup
        exact absurd (hstated.ids m' (hseen hm') latest hlatest.1 hid ▸ hm') hthere
    | opened hnew hnone => exact ⟨_, SubscriptionDb.rows_write _ _ _ _, rfl⟩
    | taken kept hnew hkept htakes => exact ⟨_, SubscriptionDb.rows_write _ _ _ _, rfl⟩
    | superseded kept hnew hkept htakes =>
        obtain ⟨-, m', hm', hinstant⟩ := h.latest kept hkept
        have hle : kept.occurredAt ≤ latest.fact.statedAt := hinstant ▸ hlatest.2 m' (hseen hm')
        refine absurd ?_ (Bool.eq_false_iff.mp htakes)
        rw [givesWayTo_iff]
        cases hv : latest.fact.version with
        | none => exact .inr ⟨.inl rfl, hle⟩
        | some v =>
            cases hk : kept.version with
            | none => exact .inr ⟨.inr rfl, hle⟩
            | some k =>
                obtain ⟨⟨m₀, hm₀, hk₀⟩, -⟩ := h.version kept k hkept hk
                have hne : m₀.fact.statedAt ≠ latest.fact.statedAt := fun hsame =>
                  hthere (hstated.instants m₀ (hseen hm₀) latest hlatest.1 hsame ▸ hm₀)
                exact .inl ⟨v, k, rfl, rfl, hstated.versions m₀ (hseen hm₀) latest hlatest.1 k v hk₀
                  hv (lt_of_le_of_ne (hlatest.2 m₀ (hseen hm₀)) hne)⟩

/-! ## A whole sequence of deliveries -/

theorem recorded_concat (db : SubscriptionDb) (deliveries : List (SubscriptionMessage × Instant))
    (delivery : SubscriptionMessage × Instant) :
    recorded db (deliveries ++ [delivery]) = ((recorded db deliveries).execute
      delivery.1.messageId delivery.1.fact delivery.2).1 := by
  unfold recorded
  rw [List.foldl_concat]

theorem Recorded.empty (accountId : Uuid) : Recorded [] accountId .empty :=
  ⟨by simp [SubscriptionDb.empty], fun _ => rfl, fun _ h => (nomatch h), fun _ _ h => (nomatch h)⟩

/-- What each delivery keeps holds after them all. -/
theorem recorded_rule {P : List SubscriptionMessage → SubscriptionDb → Prop}
    (hstated : SubscriptionStated accountId stated)
    {deliveries : List (SubscriptionMessage × Instant)}
    (hmem : ∀ delivery ∈ deliveries, delivery.1 ∈ stated) (hseen : seen ⊆ stated)
    (h : Recorded seen accountId db) (hP : P seen db)
    (hstep : ∀ {seen db m appliedAt db'}, seen ⊆ stated → m ∈ stated →
      Recorded seen accountId db → P seen db → SubscriptionDelivery accountId db m appliedAt db' →
        P (seen ++ [m]) db') :
    Recorded (seen ++ deliveries.map Prod.fst) accountId (recorded db deliveries) ∧
      P (seen ++ deliveries.map Prod.fst) (recorded db deliveries) := by
  induction deliveries using List.reverseRecOn with
  | nil =>
      rw [List.map_nil, List.append_nil]
      exact ⟨h, hP⟩
  | append_singleton deliveries delivery ih =>
      rw [List.forall_mem_append, List.forall_mem_singleton] at hmem
      obtain ⟨hbefore, hkept⟩ := ih hmem.1
      have hsub : seen ++ deliveries.map Prod.fst ⊆ stated := by
        intro m hm
        rcases List.mem_append.mp hm with hm | hm
        · exact hseen hm
        · obtain ⟨d, hd, rfl⟩ := List.mem_map.mp hm
          exact hmem.1 d hd
      have hdelivery : SubscriptionDelivery accountId (recorded db deliveries) delivery.1 delivery.2 _ :=
        execute_delivery (hstated.account _ hmem.2)
      rw [recorded_concat, List.map_append, List.map_singleton, ← List.append_assoc]
      exact ⟨hbefore.deliver hstated hsub hmem.2 hdelivery,
        hstep hsub hmem.2 hbefore hkept hdelivery⟩

/-- Among facts one of which carries a version, one carries the highest. -/
theorem exists_isLastVersioned (h : ∃ m ∈ stated, m.fact.version.isSome = true) :
    ∃ last, IsLastVersioned stated last := by
  obtain ⟨m, hm, hversion⟩ := h
  obtain ⟨last, hlast, hmax⟩ := Finset.exists_max_image
    (stated.filter fun m => m.fact.version.isSome).toFinset (fun m => m.fact.version.getD 0)
    ⟨m, by simp [hm, hversion]⟩
  rw [List.mem_toFinset, List.mem_filter] at hlast
  obtain ⟨version, hsome⟩ := Option.isSome_iff_exists.mp hlast.2
  refine ⟨last, hlast.1, version, hsome, ?_⟩
  intro other hother v hv
  have hle := hmax other (by simp [hother, hv])
  simpa [hv, hsome] using hle

/-- A fact that carries a version leaves its version in an empty row. -/
theorem SubscriptionDelivery.opens {db' : SubscriptionDb} (h : SubscriptionDelivery accountId .empty m appliedAt db') {k : ℤ}
    (hk : m.fact.version = some k) :
    ∃ kept, db'.rows accountId = some kept ∧ kept.version = some k := by
  cases h with
  | duplicate hdup => cases hdup
  | opened hnew hnothing => exact ⟨_, SubscriptionDb.rows_write _ _ _ _, hk⟩
  | taken kept hnew hkept htakes => cases hkept
  | superseded kept hnew hkept htakes => cases hkept

/-- A fact that carries no version leaves the one the row carries. -/
theorem SubscriptionDelivery.keeps_version {db' : SubscriptionDb} (h : SubscriptionDelivery accountId db m appliedAt db')
    (hnone : m.fact.version = none) {kept : EntitlementSubscription}
    (hkept : db.rows accountId = some kept) :
    ∃ kept', db'.rows accountId = some kept' ∧ kept'.version = kept.version := by
  cases h with
  | duplicate hdup => exact ⟨kept, hkept, rfl⟩
  | opened hnew hnothing =>
      rw [hkept] at hnothing
      cases hnothing
  | taken kept' hnew hkept' htakes =>
      rw [hkept] at hkept'
      cases hkept'
      refine ⟨_, SubscriptionDb.rows_write _ _ _ _, ?_⟩
      rw [hnone, Option.none_or]
  | superseded kept' hnew hkept' htakes => exact ⟨kept, hkept, rfl⟩

/-- A fact that carries a version delivered first and the latest, which carries none, next. -/
theorem overruled_of_first (hstated : SubscriptionStated accountId stated)
    (hlatest : IsLatestFact stated latest) (hnone : latest.fact.version = none) (hm : m ∈ stated)
    {k : ℤ} (hk : m.fact.version = some k) (hnotlast : ¬ IsLastVersioned stated m) :
    Recorded [m, latest] accountId (recorded .empty [(m, 0), (latest, 0)]) ∧
      Overruled stated [m, latest] accountId latest (recorded .empty [(m, 0), (latest, 0)]) := by
  have hfirst : SubscriptionDelivery accountId .empty m 0 (recorded .empty [(m, 0)]) :=
    execute_delivery (hstated.account m hm)
  have hsecond : SubscriptionDelivery accountId (recorded .empty [(m, 0)]) latest 0
      (recorded .empty [(m, 0), (latest, 0)]) :=
    execute_delivery (hstated.account latest hlatest.1)
  have hone : Recorded [m] accountId (recorded .empty [(m, 0)]) :=
    (Recorded.empty accountId).deliver hstated (List.nil_subset _) hm hfirst
  have hsub : [m] ⊆ stated := by simp [hm]
  obtain ⟨kept, hkept, hversion⟩ := hfirst.opens hk
  obtain ⟨kept', hkept', hsame⟩ := hsecond.keeps_version hnone hkept
  refine ⟨hone.deliver hstated hsub hlatest.1 hsecond, by simp, kept', k, hkept',
    hsame.trans hversion, ?_⟩
  -- Neither is the last versioned fact.
  intro last hmem hlast
  rcases List.mem_cons.mp hmem with heq | hmem
  · exact absurd (heq ▸ hlast) hnotlast
  · obtain ⟨-, v, hv, -⟩ := hlast
    rw [List.mem_singleton.mp hmem, hnone] at hv
    cases hv

/-- Whatever the order the facts of an account arrive in and however often, the row ends with what
the latest one states, if and only if that one carries a version, or at most one fact does, or the
last that does states the same. -/
theorem subscription_converges_iff (hstated : SubscriptionStated accountId stated)
    (hlatest : IsLatestFact stated latest) :
    (∀ deliveries : List (SubscriptionMessage × Instant),
      (∀ m, m ∈ deliveries.map Prod.fst ↔ m ∈ stated) →
        ∃ kept, (recorded .empty deliveries).rows accountId = some kept ∧
          kept.terms = latest.fact.terms) ↔
      (latest.fact.version.isSome = true ∨
        (∀ a ∈ stated, ∀ b ∈ stated, a.fact.version.isSome = true → b.fact.version.isSome = true →
          a = b) ∨
        ∃ last, IsLastVersioned stated last ∧ last.fact.terms = latest.fact.terms) := by
  constructor
  · intro hall
    by_contra hnot
    obtain ⟨hversion, htwo, hother⟩ : ¬ latest.fact.version.isSome = true ∧
        ¬ (∀ a ∈ stated, ∀ b ∈ stated, a.fact.version.isSome = true →
          b.fact.version.isSome = true → a = b) ∧
        ¬ ∃ last, IsLastVersioned stated last ∧ last.fact.terms = latest.fact.terms := by
      rwa [not_or, not_or] at hnot
    have hnone : latest.fact.version = none := by simpa using hversion
    push Not at htwo
    obtain ⟨a, ha, b, hb, hva, hvb, hne⟩ := htwo
    obtain ⟨last, hlast⟩ := exists_isLastVersioned ⟨a, ha, hva⟩
    have honly : ∀ c, IsLastVersioned stated c → c = last := by
      rintro c ⟨hc, v, hv, hmax⟩
      obtain ⟨hl, w, hw, hmaxl⟩ := hlast
      have hsame : v = w := le_antisymm (hmaxl c hc v hv) (hmax last hl w hw)
      rcases lt_trichotomy c.fact.statedAt last.fact.statedAt with hlt | heq | hgt
      · exact absurd (hstated.versions c hc last hl v w hv hw hlt) (by rw [hsame]; exact lt_irrefl w)
      · exact hstated.instants c hc last hl heq
      · exact absurd (hstated.versions last hl c hc w v hw hv hgt) (by rw [hsame]; exact lt_irrefl w)
    obtain ⟨first, hfirst, hvfirst, hnotlast⟩ : ∃ first ∈ stated,
        first.fact.version.isSome = true ∧ ¬ IsLastVersioned stated first := by
      by_cases htop : IsLastVersioned stated a
      · refine ⟨b, hb, hvb, fun htopb => hne ?_⟩
        rw [honly a htop, honly b htopb]
      · exact ⟨a, ha, hva, htop⟩
    obtain ⟨k, hk⟩ := Option.isSome_iff_exists.mp hvfirst
    obtain ⟨hrecorded, hover⟩ := overruled_of_first hstated hlatest hnone hfirst hk hnotlast
    have hsub : [first, latest] ⊆ stated := by simp [hfirst, hlatest.1]
    have hthen : ∀ delivery ∈ stated.map fun m => (m, (0 : Instant)), delivery.1 ∈ stated := by simp
    obtain ⟨-, hend⟩ := recorded_rule (P := fun seen db => Overruled stated seen accountId latest db)
      hstated hthen hsub hrecorded hover
      fun hseen hm hrec hP hdelivery => hP.deliver hstated hseen hm hrec hlatest hdelivery
    obtain ⟨-, kept, -, hkept, -, hterms⟩ := hend
    have hdeliveries : recorded (recorded .empty [(first, 0), (latest, 0)])
        (stated.map fun m => (m, 0)) =
        recorded .empty ([(first, 0), (latest, 0)] ++ stated.map fun m => (m, 0)) := by
      unfold recorded
      rw [List.foldl_append]
    obtain ⟨kept', hkept', hsame⟩ := hall
      ([(first, 0), (latest, 0)] ++ stated.map fun m => (m, 0)) (by
        intro m
        simp only [List.map_append, List.map_map, Function.comp_def, List.map_id', List.mem_append]
        rw [or_iff_right_of_imp]
        intro hm
        simp only [List.map_cons, List.map_nil, List.mem_cons, List.not_mem_nil, or_false] at hm
        rcases hm with rfl | rfl
        · exact hfirst
        · exact hlatest.1)
    rw [← hdeliveries, hkept] at hkept'
    cases hkept'
    have hlastseen : last ∈ [first, latest] ++ (stated.map fun m => (m, (0 : Instant))).map
        Prod.fst := by
      simp [hlast.1]
    exact hother ⟨last, hlast, (hterms last hlastseen hlast).symm.trans hsame⟩
  · intro hcondition deliveries hsame
    have hmem : ∀ delivery ∈ deliveries, delivery.1 ∈ stated := fun delivery hdelivery =>
      (hsame delivery.1).mp (List.mem_map_of_mem hdelivery)
    obtain ⟨-, hdecided⟩ := recorded_rule
      (P := fun seen db => Decided stated seen accountId latest db) hstated hmem
      (List.nil_subset stated) (Recorded.empty accountId) (fun hnil => by cases hnil)
      fun hseen hm hrec hP hdelivery => hP.deliver hstated hseen hm hrec hlatest hdelivery
    rw [List.nil_append] at hdecided
    rcases hdecided ((hsame latest).mpr hlatest.1) with hkept | ⟨hover, hnone, a, ha, b, hb, hne, hva,
      hvb⟩
    · exact hkept
    · rcases hcondition with hversion | hone | ⟨last, hlast, hterms⟩
      · rw [hnone] at hversion
        cases hversion
      · exact absurd (hone a ((hsame a).mp ha) b ((hsame b).mp hb) hva hvb) hne
      · obtain ⟨-, kept, -, hkept, -, htop⟩ := hover
        exact ⟨kept, hkept, (htop last ((hsame last).mpr hlast.1) hlast).trans hterms⟩

end Deliveries

section Sample

def activeTerms : SubscriptionTerms := ⟨some .premium, some .active, [.replays], some 900⟩

def cancelledTerms : SubscriptionTerms := ⟨some .premium, some .cancelled, [], none⟩

/-- Two facts with ticketing's version, then one without. -/
def mixedFacts : List SubscriptionMessage :=
  [⟨1, ⟨7, cancelledTerms, some 1, 10⟩⟩, ⟨2, ⟨7, activeTerms, some 2, 20⟩⟩,
    ⟨3, ⟨7, cancelledTerms, none, 30⟩⟩]

/-- Two facts with ticketing's version, the later one the latest. -/
def versionedFacts : List SubscriptionMessage :=
  [⟨1, ⟨7, activeTerms, some 1, 10⟩⟩, ⟨2, ⟨7, cancelledTerms, some 2, 20⟩⟩]

theorem subscription_converges_iff_sample :
    ∃ kept, (recorded .empty (versionedFacts.reverse.map fun m => (m, 40))).rows 7 = some kept ∧
      kept.terms = cancelledTerms := by
  have hstated : SubscriptionStated 7 versionedFacts := by
    refine ⟨by decide, by decide, by decide, ?_⟩
    intro m hm m' hm' v v' hv hv' hlt
    fin_cases hm <;> fin_cases hm' <;> simp_all
    omega
  have hlatest : IsLatestFact versionedFacts ⟨2, ⟨7, cancelledTerms, some 2, 20⟩⟩ :=
    ⟨by decide, by decide⟩
  exact (subscription_converges_iff hstated hlatest).mpr (.inl rfl) _ fun m => by
    simp [Function.comp_def]

/-- The second fact arrives last, and is taken over the latest one by the first one's version. -/
theorem paid_access_kept :
    SubscriptionStated 7 mixedFacts ∧ IsLatestFact mixedFacts mixedFacts[2] ∧
      (recorded .empty [(mixedFacts[0], 40), (mixedFacts[2], 41), (mixedFacts[1], 42)]).rows 7 =
        some ⟨activeTerms, some 2, 30, 42⟩ ∧
      activeTerms ≠ mixedFacts[2].fact.terms := by
  refine ⟨⟨by decide, by decide, by decide, ?_⟩, ⟨by decide, by decide⟩, by decide, by decide⟩
  intro m hm m' hm' v v' hv hv' hlt
  fin_cases hm <;> fin_cases hm' <;> simp_all
  omega

end Sample

end Arthome.Streaming
