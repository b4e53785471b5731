import Arthome.Streaming.RecordingCalls
import Mathlib.Data.List.Nodup

/-!
# The leases of the recording calls

A pass claims a batch of assets in one transaction, each leased until its next attempt
would be due, and then makes their calls one after the other. The lease of an asset
keeps the other replicas away while it lasts and the row keeps it: it is over when the
instant comes, or when a transaction clears the row's schedule. A claim that outlives
its lease, behind the calls of its batch or the deletions of a start not kept, lets
another replica claim the same call.
-/

namespace Arthome.Streaming

open Arthome.Core Arthome.Messaging Library

/-- How far a claimed call is. -/
inductive ClaimStage (ρ : Type) where
  | waiting
  | calling (since : Instant)
  | answered (result : CallResult ρ)
  | refused
  /-- The start was not kept: its deletion is in flight. -/
  | cleaning (ref : ρ) (attempt : ℕ) (since : Instant)
  deriving Repr, DecidableEq

structure AssetClaim (ρ : Type) where
  replica : ℕ
  dateId : Uuid
  /-- The row the call was claimed from. -/
  asked : ReplayAsset ρ
  attempt : ℕ
  leasedUntil : Instant
  stage : ClaimStage ρ
  deriving Repr, DecidableEq

/-- The assets of all dates, and the calls claimed and not over, in the order claimed. -/
structure Leases (ρ : Type) where
  clock : Instant
  rows : Uuid → Option (ReplayAsset ρ)
  claims : List (AssetClaim ρ)

/-- A call or its answer, a transaction of a pass, or the clock going on. A claim is named by its
place among the others. -/
inductive LeaseStep (ρ : Type) where
  | tick (later : Instant)
  | request (dateId channelId : Uuid) (startedAt : Instant) (facts : Option AssetDateFacts)
  | close (dateId : Uuid) (runEndedAt : Option Instant)
  | withdraw (dateId : Uuid) (outcome : Option DateOutcome)
  | expire (dateId : Uuid)
  /-- The claim of a pass: its batch, with the jitter drawn for each. -/
  | claim (replica : ℕ) (batch : List (Uuid × ℚ))
  | call (claim : ℕ)
  | answer (claim : ℕ) (result : CallResult ρ)
  /-- The call failed or timed out; `unknown` when the provider knows no such recording. -/
  | fail (claim : ℕ) (unknown : Bool)
  | settle (claim : ℕ) (facts : Option AssetDateFacts) (runEndedAt : Option Instant)
      (commitment : Commitment)
  | giveUp (claim : ℕ)
  /-- The transaction of a give-up failed: the pass stops, what it had claimed is not called. -/
  | abandon (claim : ℕ)
  /-- An attempt to delete the start not kept ended. -/
  | cleaned (claim : ℕ) (deleted : Bool)
  deriving Repr, DecidableEq

namespace AssetClaim

variable {ρ : Type}

/-- A call of the asset is in flight at the provider. -/
def InFlight (claim : AssetClaim ρ) : Prop :=
  match claim.stage with
  | .calling _ | .cleaning _ _ _ => True
  | _ => False

/-- The instant the call in flight is timed out at. -/
def timesOutAt (claim : AssetClaim ρ) : Option Instant :=
  match claim.stage with
  | .calling since | .cleaning _ _ since => some (since + RECORDING_CALL_TIMEOUT_MS)
  | _ => none

/-- The call made, or answered at once where there is no reference to make it for. -/
def called (claim : AssetClaim ρ) (now : Instant) : AssetClaim ρ :=
  { claim with
    stage :=
      match claim.asked.callDue, claim.asked.recordingRef with
      | some .stop, none => .answered .stop
      | some .status, none => .refused
      | some .delete, none => .answered .delete
      | _, _ => .calling now }

/-- What is left of the claim of an outcome not written: a recording started is nobody's. -/
def unwritten (claim : AssetClaim ρ) (result : CallResult ρ) (now : Instant) :
    Option (AssetClaim ρ) :=
  match result with
  | .start ref => some { claim with stage := .cleaning ref 1 now }
  | _ => none

end AssetClaim

namespace Leases

variable {ρ : Type}

def initial (clock : Instant) : Leases ρ := ⟨clock, fun _ => none, []⟩

def writeRow (s : Leases ρ) (dateId : Uuid) (row : Option (ReplayAsset ρ)) : Leases ρ :=
  { s with rows := Function.update s.rows dateId row }

/-- The claim goes on as another, or is over. -/
def continued (s : Leases ρ) (place : ℕ) (claim : Option (AssetClaim ρ)) : Leases ρ :=
  match claim with
  | some claim => { s with claims := s.claims.set place claim }
  | none => { s with claims := s.claims.eraseIdx place }

/-- One asset of a batch claimed, when it is due. -/
def claimOne (replica : ℕ) (s : Leases ρ) (asked : Uuid × ℚ) : Option (Leases ρ) := do
  let row ← s.rows asked.1
  if row.isDue s.clock && row.callDue.isSome then
    let attempt := row.callAttempts + 1
    let leasedUntil := leaseUntil attempt s.clock asked.2
    let leased := s.writeRow asked.1 (some (row.claimed leasedUntil))
    some { leased with
      claims := s.claims ++ [⟨replica, asked.1, row, attempt, leasedUntil, .waiting⟩] }
  else none

/-- The outcome of a call, as its transaction ended. -/
def settled [RunRules] [ReplayRules] (s : Leases ρ) (place : ℕ) (claim : AssetClaim ρ)
    (result : CallResult ρ) (facts : Option AssetDateFacts) (runEndedAt : Option Instant)
    (commitment : Commitment) : Leases ρ :=
  match ReplayAsset.settle (s.rows claim.dateId) result facts runEndedAt s.clock with
  | .error .callRefused => s.continued place (some { claim with stage := .refused })
  | .error .notProjected => s.continued place (claim.unwritten result s.clock)
  | .ok outcome =>
    match commitment with
    | .committed =>
      (s.writeRow claim.dateId outcome.asset).continued place
        (outcome.orphan.map fun ref => { claim with stage := .cleaning ref 1 s.clock })
    | .rolledBack => s.continued place (claim.unwritten result s.clock)
    | .unacknowledged =>
      (s.writeRow claim.dateId outcome.asset).continued place (claim.unwritten result s.clock)

variable [RunRules] [ReplayRules]

/-- `none` where the step has nothing to do. -/
def step (s : Leases ρ) : LeaseStep ρ → Option (Leases ρ)
  | .tick later => if s.clock ≤ later then some { s with clock := later } else none
  | .request dateId channelId startedAt facts =>
    if (s.rows dateId).isNone && shouldRecord facts then
      some (s.writeRow dateId (some (.requested dateId channelId startedAt)))
    else none
  | .close dateId runEndedAt => do
    let row ← s.rows dateId
    let closed ← row.close runEndedAt
    some (s.writeRow dateId (some closed))
  | .withdraw dateId outcome => do
    let row ← s.rows dateId
    let withdrawn ← row.withdrawOne outcome s.clock
    some (s.writeRow dateId (some withdrawn.1))
  | .expire dateId => do
    let row ← s.rows dateId
    let expired ← row.expireOne s.clock
    some (s.writeRow dateId (some expired.1))
  | .claim replica batch => batch.foldlM (claimOne replica) s
  | .call place =>
    match s.claims[place]? with
    | some claim =>
      if claim.stage matches .waiting then some (s.continued place (some (claim.called s.clock)))
      else none
    | none => none
  | .answer place result =>
    match s.claims[place]? with
    | some claim =>
      if (claim.stage matches .calling _) ∧ claim.asked.callDue = some result.call then
        some (s.continued place (some { claim with stage := .answered result }))
      else none
    | none => none
  | .fail place unknown =>
    match s.claims[place]? with
    | some claim =>
      if claim.stage matches .calling _ then
        if unknown && claim.asked.callDue = some .status ||
            RECORDING_ATTEMPTS_MAX ≤ claim.attempt then
          some (s.continued place (some { claim with stage := .refused }))
        else some (s.continued place none)
      else none
    | none => none
  | .settle place facts runEndedAt commitment =>
    match s.claims[place]? with
    | some ⟨replica, dateId, asked, attempt, leasedUntil, .answered result⟩ =>
      some (s.settled place ⟨replica, dateId, asked, attempt, leasedUntil, .answered result⟩ result
        facts runEndedAt commitment)
    | _ => none
  | .giveUp place =>
    match s.claims[place]? with
    | some claim =>
      if claim.stage matches .refused then
        match (s.rows claim.dateId).bind fun row =>
          claim.asked.callDue.bind fun call => row.giveUp call s.clock with
        | some failed => some ((s.writeRow claim.dateId (some failed)).continued place none)
        | none => some (s.continued place none)
      else none
    | none => none
  | .abandon place =>
    match s.claims[place]? with
    | some claim =>
      if claim.stage matches .refused then
        some { s with claims := s.claims.filter fun other => other.replica ≠ claim.replica }
      else none
    | none => none
  | .cleaned place deleted =>
    match s.claims[place]? with
    | some ⟨replica, dateId, asked, attempt, leasedUntil, .cleaning ref tries _⟩ =>
      if deleted || ORPHAN_DELETE_ATTEMPTS ≤ tries then some (s.continued place none)
      else
        some (s.continued place
          (some ⟨replica, dateId, asked, attempt, leasedUntil, .cleaning ref (tries + 1) s.clock⟩))
    | _ => none

end Leases

/-! ## The runs of the passes -/

/-- A call in flight is timed out in time, a replica claims again once its pass is over, and a pass
makes its calls in the order it claimed them. -/
def LeaseStep.Admits {ρ : Type} (s : Leases ρ) : LeaseStep ρ → Prop
  | .tick later => ∀ claim ∈ s.claims, ∀ limit ∈ claim.timesOutAt, later ≤ limit
  | .claim replica _ => ∀ claim ∈ s.claims, claim.replica ≠ replica
  | .call place =>
    ∀ earlier ∈ s.claims.take place, ∀ claim ∈ s.claims[place]?, earlier.replica ≠ claim.replica
  | _ => True

/-- A claim is over before its lease, and no pass rewrites an asset while a claim of it is not. -/
def LeaseStep.KeepsLeases {ρ : Type} (s : Leases ρ) : LeaseStep ρ → Prop
  | .tick later => ∀ claim ∈ s.claims, later < claim.leasedUntil
  | .close dateId _ | .withdraw dateId _ | .expire dateId =>
    ∀ claim ∈ s.claims, claim.dateId ≠ dateId
  | _ => True

instance {ρ : Type} (s : Leases ρ) : DecidablePred (LeaseStep.Admits s)
  | .tick _ => inferInstanceAs (Decidable (∀ _ ∈ _, ∀ _ ∈ _, _))
  | .claim _ _ => inferInstanceAs (Decidable (∀ _ ∈ _, _ ≠ _))
  | .call _ => inferInstanceAs (Decidable (∀ _ ∈ _, ∀ _ ∈ _, _ ≠ _))
  | .request .. | .close .. | .withdraw .. | .expire .. | .answer .. | .fail .. | .settle ..
  | .giveUp .. | .abandon .. | .cleaned .. => isTrue trivial

instance {ρ : Type} (s : Leases ρ) : DecidablePred (LeaseStep.KeepsLeases s)
  | .tick _ => inferInstanceAs (Decidable (∀ _ ∈ _, _ < _))
  | .close .. | .withdraw .. | .expire .. => inferInstanceAs (Decidable (∀ _ ∈ _, _ ≠ _))
  | .request .. | .claim .. | .call .. | .answer .. | .fail .. | .settle .. | .giveUp ..
  | .abandon .. | .cleaned .. => isTrue trivial

namespace Leases

variable {ρ : Type}

/-- No two calls of an asset are in flight, and none is still to be made on a claim whose asset
another replica has claimed since. -/
def OneCall (s : Leases ρ) : Prop :=
  s.claims.Pairwise fun earlier later => earlier.dateId = later.dateId →
    ¬ (earlier.InFlight ∧ later.InFlight) ∧
      ¬ (earlier.stage = .waiting ∧ later.replica ≠ earlier.replica)

end Leases

/-! ## What a claim still finds in its row -/

section Leased

variable {ρ : Type}

/-- The row is as the claim left it, or keeps the reference of the start it is for. -/
def AssetClaim.Holds (claim : AssetClaim ρ) (row : Option (ReplayAsset ρ)) : Prop :=
  (row = some (claim.asked.claimed claim.leasedUntil) ∧
      ∀ ref, claim.stage = .answered (.start ref) → claim.asked.callDue = some .start) ∨
    ∃ kept ref attempt since, claim.stage = .cleaning ref attempt since ∧ row = some kept ∧
      kept.state = .recording ∧ kept.recordingRef.isSome

theorem AssetClaim.Holds.not_due {claim : AssetClaim ρ} {row : ReplayAsset ρ} {now : Instant}
    (h : claim.Holds (some row)) (hnow : now < claim.leasedUntil) : row.isDue now = false := by
  rcases h with ⟨hrow, _⟩ | ⟨kept, ref, attempt, since, _, hrow, hstate, href⟩
  · obtain rfl := Option.some.inj hrow
    have hlater : ¬ claim.leasedUntil ≤ now := not_le.mpr hnow
    simp [ReplayAsset.isDue, ReplayAsset.claimed, hlater]
  · obtain rfl := Option.some.inj hrow
    simp [ReplayAsset.isDue, hstate, Option.isSome_iff_ne_none.mp href]

namespace Leases

/-- The invariant of the leases: one claim an asset, over before its lease. -/
structure Leased (s : Leases ρ) : Prop where
  dates : (s.claims.map AssetClaim.dateId).Nodup
  clock : ∀ claim ∈ s.claims, s.clock < claim.leasedUntil
  rows : ∀ claim ∈ s.claims, claim.Holds (s.rows claim.dateId)

variable {s t : Leases ρ} {claim next : AssetClaim ρ} {place : ℕ}
  {row : Option (ReplayAsset ρ)}

theorem initial_leased (clock : Instant) : (initial clock : Leases ρ).Leased :=
  ⟨List.nodup_nil, by simp [initial], by simp [initial]⟩

theorem Leased.oneCall (h : s.Leased) : s.OneCall := by
  have hdates := List.pairwise_map.mp h.dates
  exact hdates.imp fun hne hsame => absurd hsame hne

theorem Leased.dateId_ne (h : s.Leased) {i j : ℕ} {other : AssetClaim ρ}
    (hother : s.claims[i]? = some other) (hclaim : s.claims[j]? = some claim) (hij : i ≠ j) :
    other.dateId ≠ claim.dateId := by
  intro hsame
  have hi : i < (s.claims.map AssetClaim.dateId).length := by
    rw [List.length_map]
    exact (List.getElem?_eq_some_iff.mp hother).1
  apply hij
  apply (List.getElem?_inj hi h.dates).mp
  rw [List.getElem?_map, List.getElem?_map, hother, hclaim, Option.map_some, Option.map_some, hsame]

/-- The other claims stand, whatever is written of the claim's own row. -/
theorem Leased.other (h : s.Leased) {i : ℕ} {other : AssetClaim ρ}
    (hother : s.claims[i]? = some other) (hclaim : s.claims[place]? = some claim)
    (hi : i ≠ place) : other.Holds ((s.writeRow claim.dateId row).rows other.dateId) := by
  simp only [writeRow, Function.update_of_ne (h.dateId_ne hother hclaim hi)]
  exact h.rows other (List.mem_of_getElem? hother)

/-- A claim over, its row written. -/
theorem Leased.over (h : s.Leased) (hclaim : s.claims[place]? = some claim) :
    ((s.writeRow claim.dateId row).continued place none).Leased := by
  constructor
  · exact h.dates.sublist ((List.eraseIdx_sublist s.claims place).map _)
  · intro other hother
    exact h.clock other (List.mem_of_mem_eraseIdx hother)
  · intro other hother
    obtain ⟨i, hi, hat⟩ := List.mem_eraseIdx_iff_getElem?.mp hother
    exact h.other hat hclaim hi

/-- A claim gone on, its row written as it goes on with it. -/
theorem Leased.goesOn (h : s.Leased) (hclaim : s.claims[place]? = some claim)
    (hdate : next.dateId = claim.dateId) (hlease : next.leasedUntil = claim.leasedUntil)
    (hholds : next.Holds row) :
    ((s.writeRow claim.dateId row).continued place (some next)).Leased := by
  have hcases : ∀ other ∈ s.claims.set place next,
      other = next ∨ ∃ i, i ≠ place ∧ s.claims[i]? = some other := by
    intro other hother
    obtain ⟨i, hi⟩ := List.getElem?_of_mem hother
    rw [List.getElem?_set] at hi
    split_ifs at hi with hplace hlength
    · exact .inl (Option.some.inj hi).symm
    · exact .inr ⟨i, fun h => hplace h.symm, hi⟩
  constructor
  · have hmap : (s.claims.set place next).map AssetClaim.dateId =
        s.claims.map AssetClaim.dateId := by
      obtain ⟨hplace, rfl⟩ := List.getElem?_eq_some_iff.mp hclaim
      rw [List.map_set, hdate, ← List.map_set, List.set_getElem_self]
    exact hmap ▸ h.dates
  · intro other hother
    rcases hcases other hother with rfl | ⟨i, _, hat⟩
    · rw [hlease]
      exact h.clock claim (List.mem_of_getElem? hclaim)
    · exact h.clock other (List.mem_of_getElem? hat)
  · intro other hother
    rcases hcases other hother with rfl | ⟨i, hi, hat⟩
    · rw [hdate]
      simpa only [continued, writeRow, Function.update_self] using hholds
    · exact h.other hat hclaim hi

theorem writeRow_same (s : Leases ρ) (dateId : Uuid) : s.writeRow dateId (s.rows dateId) = s := by
  unfold writeRow
  rw [Function.update_eq_self]

theorem Leased.ends (h : s.Leased) (hclaim : s.claims[place]? = some claim) :
    (s.continued place none).Leased := by
  rw [← writeRow_same s claim.dateId]
  exact h.over hclaim

theorem Leased.continues (h : s.Leased) (hclaim : s.claims[place]? = some claim)
    (hdate : next.dateId = claim.dateId) (hlease : next.leasedUntil = claim.leasedUntil)
    (hholds : next.Holds (s.rows claim.dateId)) : (s.continued place (some next)).Leased := by
  rw [← writeRow_same s claim.dateId]
  exact h.goesOn hclaim hdate hlease hholds

/-- A claim gone on to a stage that says nothing of a start. -/
theorem Leased.staged (h : s.Leased) (hclaim : s.claims[place]? = some claim)
    {stage : ClaimStage ρ} (hfrom : ∀ ref attempt since, claim.stage ≠ .cleaning ref attempt since)
    (hstart : ∀ ref, stage = .answered (.start ref) → claim.asked.callDue = some .start) :
    (s.continued place (some { claim with stage })).Leased := by
  have hholds : AssetClaim.Holds { claim with stage } (s.rows claim.dateId) := by
    rcases h.rows claim (List.mem_of_getElem? hclaim) with ⟨hrow, _⟩ | ⟨_, _, _, _, hcleaning, _⟩
    · exact .inl ⟨hrow, hstart⟩
    · exact absurd hcleaning (hfrom _ _ _)
  exact h.continues hclaim rfl rfl hholds

/-- The rows of other dates are written at will. -/
theorem Leased.elsewhere (h : s.Leased) {dateId : Uuid}
    (hnone : ∀ claim ∈ s.claims, claim.dateId ≠ dateId) : (s.writeRow dateId row).Leased := by
  refine ⟨h.dates, h.clock, ?_⟩
  intro other hother
  simp only [writeRow, Function.update_of_ne (hnone other hother)]
  exact h.rows other hother

/-- A date whose row is absent or due has no claim that is not over. -/
theorem Leased.unclaimed (h : s.Leased) {dateId : Uuid}
    (hrow : ∀ row, s.rows dateId = some row → row.isDue s.clock = true) :
    ∀ claim ∈ s.claims, claim.dateId ≠ dateId := by
  rintro other hother rfl
  have hholds := h.rows other hother
  have hsome : ∃ row, s.rows other.dateId = some row := by
    rcases hholds with ⟨hrow, _⟩ | ⟨kept, _, _, _, _, hrow, _⟩
    · exact ⟨_, hrow⟩
    · exact ⟨kept, hrow⟩
  obtain ⟨found, hfound⟩ := hsome
  rw [hfound] at hholds
  have hnot := hholds.not_due (h.clock other hother)
  rw [hrow found hfound] at hnot
  cases hnot

/-! ## A claim -/

/-- No retry delay is shorter than the first. -/
theorem lt_leaseUntil (attempt : ℕ) (now : Instant) (random : ℚ) :
    now < leaseUntil attempt now random := by
  have hdelays : ∀ delay ∈ RECORDING_RETRY_DELAYS_MS, 5000 ≤ delay := by
    intro delay hdelay
    exact le_of_mem_doublingDelays (by decide) hdelay
  unfold leaseUntil nextAttemptAt
  cases hwait : retryDelayAfter attempt RECORDING_RETRY_DELAYS_MS random with
  | some wait =>
      have hbound := le_of_retryDelayAfter hdelays hwait
      have hpos : (0 : ℤ) < wait := by omega
      exact lt_add_of_pos_right now hpos
  | none =>
      have hlast : (0 : ℤ) < (RECORDING_RETRY_DELAYS_MS.getLast?.getD 0 : ℕ) := by
        decide +kernel
      exact lt_add_of_pos_right now hlast

theorem claimOne_leased {replica : ℕ} {asked : Uuid × ℚ} (h : s.Leased)
    (hclaim : claimOne replica s asked = some t) : t.Leased := by
  simp only [claimOne, Option.bind_eq_bind, Option.bind_eq_some_iff] at hclaim
  obtain ⟨row, hrow, hstep⟩ := hclaim
  split_ifs at hstep with hdue
  obtain rfl := Option.some.inj hstep
  rw [Bool.and_eq_true] at hdue
  have hnone : ∀ claim ∈ s.claims, claim.dateId ≠ asked.1 := by
    apply h.unclaimed
    intro found hfound
    obtain rfl := Option.some.inj (hrow.symm.trans hfound)
    exact hdue.1
  have hleased : (s.writeRow asked.1
      (some (row.claimed (leaseUntil (row.callAttempts + 1) s.clock asked.2)))).Leased :=
    h.elsewhere hnone
  constructor
  · rw [List.map_append, List.nodup_append]
    refine ⟨h.dates, List.pairwise_singleton _ _, ?_⟩
    intro dateId hdate new hnew hsame
    obtain ⟨claim, hmem, rfl⟩ := List.mem_map.mp hdate
    exact hnone claim hmem (hsame.trans (List.mem_singleton.mp hnew))
  · intro claim hmem
    rcases List.mem_append.mp hmem with hold | hnew
    · exact h.clock claim hold
    · obtain rfl := List.mem_singleton.mp hnew
      exact lt_leaseUntil _ _ _
  · intro claim hmem
    rcases List.mem_append.mp hmem with hold | hnew
    · exact hleased.rows claim hold
    · obtain rfl := List.mem_singleton.mp hnew
      refine .inl ⟨?_, ?_⟩
      · exact Function.update_self ..
      · intro ref hstage
        cases hstage

theorem claim_leased {replica : ℕ} {batch : List (Uuid × ℚ)} (h : s.Leased)
    (hclaim : batch.foldlM (claimOne replica) s = some t) : t.Leased := by
  induction batch generalizing s with
  | nil => exact Option.some.inj hclaim ▸ h
  | cons asked batch ih =>
      rw [List.foldlM_cons] at hclaim
      obtain ⟨claimed, hone, hrest⟩ := Option.bind_eq_some_iff.mp hclaim
      exact ih (claimOne_leased h hone) hrest

/-! ## A settlement -/

variable [RunRules] [ReplayRules]

omit [RunRules] [ReplayRules] in
/-- A claim whose start is answered finds its row recording, nothing kept yet. -/
theorem Leased.keeps_start (h : s.Leased) (hmem : claim ∈ s.claims) {ref : ρ}
    (hstage : claim.stage = .answered (.start ref)) :
    ∃ row, s.rows claim.dateId = some row ∧ row.state = .recording ∧ row.recordingRef = none := by
  rcases h.rows claim hmem with ⟨hrow, hstart⟩ | ⟨_, _, _, _, hcleaning, _⟩
  · obtain ⟨hstate, href⟩ := ReplayAsset.callDue_eq_start (hstart ref hstage)
    exact ⟨_, hrow, hstate, href⟩
  · rw [hstage] at hcleaning
    cases hcleaning

omit [RunRules] [ReplayRules] in
/-- An outcome not written leaves a start to delete, or nothing. -/
theorem Leased.unwritten (h : s.Leased) (hclaim : s.claims[place]? = some claim)
    {result : CallResult ρ} (hstage : claim.stage = .answered result) :
    (s.continued place (claim.unwritten result s.clock)).Leased := by
  cases result with
  | start ref =>
      apply h.staged hclaim
      · intro ref attempt since hcleaning
        rw [hstage] at hcleaning
        cases hcleaning
      · intro ref hstart
        cases hstart
  | stop | status | delete => exact h.ends hclaim

theorem settled_leased (h : s.Leased) (hclaim : s.claims[place]? = some claim)
    {result : CallResult ρ} (hstage : claim.stage = .answered result)
    (facts : Option AssetDateFacts) (runEndedAt : Option Instant) (commitment : Commitment) :
    (s.settled place claim result facts runEndedAt commitment).Leased := by
  have hfrom : ∀ ref attempt since, claim.stage ≠ .cleaning ref attempt since := by
    intro ref attempt since hcleaning
    rw [hstage] at hcleaning
    cases hcleaning
  unfold settled
  split
  · exact h.staged hclaim hfrom (fun ref hstart => by cases hstart)
  · exact h.unwritten hclaim hstage
  · rename_i outcome houtcome
    cases result with
    | start ref =>
        -- The row is as the claim left it, so the start is kept.
        obtain ⟨row, hrow, hstate, href⟩ := h.keeps_start (List.mem_of_getElem? hclaim) hstage
        rw [hrow] at houtcome
        have hkept := Except.ok.inj houtcome
        rw [ReplayAsset.settleStart_kept hstate href] at hkept
        obtain rfl := hkept.symm
        cases commitment with
        | committed => exact h.over hclaim
        | rolledBack => exact h.unwritten hclaim hstage
        | unacknowledged =>
            have hholds : AssetClaim.Holds { claim with stage := .cleaning ref 1 s.clock }
                (some { row.callDueNow with recordingRef := some ref }) :=
              .inr ⟨_, ref, 1, s.clock, rfl, rfl, hstate, rfl⟩
            exact h.goesOn hclaim rfl rfl hholds
    | stop | status | delete =>
        have horphan : outcome.orphan = none := ReplayAsset.settle_orphan_none houtcome RecordingCall.noConfusion
        cases commitment with
        | committed =>
            simp only [horphan, Option.map_none]
            exact h.over hclaim
        | rolledBack => exact h.ends hclaim
        | unacknowledged => exact h.over hclaim

/-! ## The run -/

/-- A step that keeps the leases keeps one claim an asset. -/
theorem step_leased {a : LeaseStep ρ} (h : s.Leased) (hkeeps : a.KeepsLeases s)
    (hstep : s.step a = some t) : t.Leased := by
  cases a with
  | tick later =>
      simp only [step] at hstep
      split_ifs at hstep
      obtain rfl := Option.some.inj hstep
      exact ⟨h.dates, hkeeps, h.rows⟩
  | request dateId channelId startedAt facts =>
      simp only [step] at hstep
      split_ifs at hstep with habsent
      obtain rfl := Option.some.inj hstep
      rw [Bool.and_eq_true, Option.isNone_iff_eq_none] at habsent
      apply h.elsewhere
      apply h.unclaimed
      intro row hrow
      rw [habsent.1] at hrow
      cases hrow
  | close dateId runEndedAt =>
      simp only [step, Option.bind_eq_bind, Option.bind_eq_some_iff, Option.some.injEq] at hstep
      obtain ⟨row, _, closed, _, rfl⟩ := hstep
      exact h.elsewhere hkeeps
  | withdraw dateId outcome =>
      simp only [step, Option.bind_eq_bind, Option.bind_eq_some_iff, Option.some.injEq] at hstep
      obtain ⟨row, _, withdrawn, _, rfl⟩ := hstep
      exact h.elsewhere hkeeps
  | expire dateId =>
      simp only [step, Option.bind_eq_bind, Option.bind_eq_some_iff, Option.some.injEq] at hstep
      obtain ⟨row, _, expired, _, rfl⟩ := hstep
      exact h.elsewhere hkeeps
  | claim replica batch => exact claim_leased h hstep
  | call place =>
      simp only [step] at hstep
      split at hstep
      · rename_i claim hclaim
        split_ifs at hstep with hwaiting
        obtain rfl := Option.some.inj hstep
        apply h.staged hclaim
        · intro ref attempt since hcleaning
          simp [hcleaning] at hwaiting
        · intro ref hstage
          split at hstage <;> cases hstage
      · cases hstep
  | answer place result =>
      simp only [step] at hstep
      split at hstep
      · rename_i claim hclaim
        split_ifs at hstep with hcalling
        obtain rfl := Option.some.inj hstep
        apply h.staged hclaim
        · intro ref attempt since hcleaning
          simp [hcleaning] at hcalling
        · intro ref hstage
          cases hstage
          exact hcalling.2
      · cases hstep
  | fail place unknown =>
      simp only [step] at hstep
      split at hstep
      · rename_i claim hclaim
        split_ifs at hstep with hcalling hrefused
        · obtain rfl := Option.some.inj hstep
          apply h.staged hclaim
          · intro ref attempt since hcleaning
            simp [hcleaning] at hcalling
          · intro ref hstage
            cases hstage
        · obtain rfl := Option.some.inj hstep
          exact h.ends hclaim
      · cases hstep
  | settle place facts runEndedAt commitment =>
      simp only [step] at hstep
      split at hstep
      · rename_i hclaim
        obtain rfl := Option.some.inj hstep
        exact settled_leased h hclaim rfl facts runEndedAt commitment
      · cases hstep
  | giveUp place =>
      simp only [step] at hstep
      split at hstep
      · rename_i claim hclaim
        split_ifs at hstep
        split at hstep
        · obtain rfl := Option.some.inj hstep
          exact h.over hclaim
        · obtain rfl := Option.some.inj hstep
          exact h.ends hclaim
      · cases hstep
  | abandon place =>
      simp only [step] at hstep
      split at hstep
      · rename_i claim hclaim
        split_ifs at hstep
        obtain rfl := Option.some.inj hstep
        refine ⟨h.dates.sublist (List.filter_sublist.map _), ?_, ?_⟩
        · exact fun other hother => h.clock other (List.mem_of_mem_filter hother)
        · exact fun other hother => h.rows other (List.mem_of_mem_filter hother)
      · cases hstep
  | cleaned place deleted =>
      simp only [step] at hstep
      split at hstep
      · rename_i ref tries since hclaim
        split_ifs at hstep
        · obtain rfl := Option.some.inj hstep
          exact h.ends hclaim
        · obtain rfl := Option.some.inj hstep
          refine h.continues hclaim rfl rfl ?_
          rcases h.rows _ (List.mem_of_getElem? hclaim) with ⟨hrow, _⟩ | ⟨kept, _, _, _, _, hkept⟩
          · exact .inl ⟨hrow, fun ref hstage => by cases hstage⟩
          · exact .inr ⟨kept, ref, tries + 1, s.clock, rfl, hkept⟩
      · cases hstep

/-- As long as every claim is over before its lease, and no pass rewrites an asset while a claim of
it is not, an asset has one call in flight at most, and none left to make once it is claimed again. -/
theorem one_call {clock : Instant} (h : Reaches LeaseStep.KeepsLeases step (initial clock) s) :
    s.OneCall := by
  have hleased : s.Leased :=
    h.invariant (initial_leased clock) fun v a w hv hkeeps hstep => step_leased hv hkeeps hstep
  exact hleased.oneCall

end Leases

end Leased

/-! ## A batch that outlives its leases -/

section Sample

open Arthome.Core.Sample

namespace Leases

instance {ρ : Type} : DecidablePred (AssetClaim.InFlight (ρ := ρ))
  | ⟨_, _, _, _, _, .calling _⟩ | ⟨_, _, _, _, _, .cleaning _ _ _⟩ => isTrue trivial
  | ⟨_, _, _, _, _, .waiting⟩ | ⟨_, _, _, _, _, .answered _⟩ | ⟨_, _, _, _, _, .refused⟩ =>
    isFalse id

instance {ρ : Type} [DecidableEq ρ] (s : Leases ρ) : Decidable s.OneCall :=
  inferInstanceAs (Decidable (List.Pairwise _ _))

/-- Two dates on air, both claimed by one pass; the first start takes nearly its time-out. -/
def sampleFirstCall : List (LeaseStep ℕ) :=
  let facts : Option AssetDateFacts := some ⟨some ⟨0, 60, 30, .included, 48⟩, none⟩
  [.request 1 9 0 facts, .request 2 9 0 facts, .claim 1 [(1, 0), (2, 0)], .call 0, .tick 3900,
    .answer 0 (.start 7), .settle 0 facts none .committed, .call 0]

/-- The second start is still in flight when its lease is over, and another replica claims it. -/
def sampleSecondClaim : List (LeaseStep ℕ) := [.tick 5000, .claim 2 [(2, 0)], .call 1]

theorem one_call_sample :
    ∃ s : Leases ℕ, s.claims.map AssetClaim.timesOutAt = [some 7900] ∧ s.OneCall := by
  have hcalls : (sampleFirstCall.foldlM (fun s a => if LeaseStep.KeepsLeases s a then step s a
      else none) (initial 0)).map (fun s => s.claims.map AssetClaim.timesOutAt) =
        some [some 7900] := by decide +kernel
  obtain ⟨s, hs, hclaims⟩ := Option.map_eq_some_iff.mp hcalls
  exact ⟨s, hclaims, one_call (.of_guarded hs)⟩

/-- Two calls of the second date are in flight, the first of them in time. -/
theorem two_calls_past_lease :
    ∃ s : Leases ℕ, Reaches LeaseStep.Admits step (initial 0) s ∧ ¬ s.OneCall := by
  have hcalls : ((sampleFirstCall ++ sampleSecondClaim).foldlM (fun s a =>
      if LeaseStep.Admits s a then step s a else none) (initial 0)).map (fun s : Leases ℕ =>
        decide s.OneCall) = some false := by decide +kernel
  obtain ⟨s, hs, hone⟩ := Option.map_eq_some_iff.mp hcalls
  exact ⟨s, .of_guarded hs, of_decide_eq_false hone⟩

end Leases

end Sample

end Arthome.Streaming
