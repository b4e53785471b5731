import Arthome.Streaming.Screens

/-!
# The renewals under one allowance

While nobody opens a screen on the date, and no lease lapses or is released, a renewal
either keeps its lease or gives it up to those opened later. Each renewal is then one
question of whether the lease is among the highest of those held, and once each has
asked only these are left.
-/

namespace Arthome.Streaming

open Arthome.Core Library

/-- The right to watch stands, the number of screens apart. -/
def DeskFacts.Stands [WatchRules] (facts : DeskFacts) (viewerCountry : String) (now : Instant) :
    Prop :=
  ∀ opened allowed tokenId, opened < allowed →
    ∃ issue, issueFor (verdictOf facts.entitlement facts.runState ⟨opened, allowed⟩
      facts.previewSecondsLeft viewerCountry now) facts.cover tokenId now = .ok issue

namespace PlaybackSessions

/-- No lease held at `since` has lapsed. -/
def NoneLapsed [RunRules] (s : PlaybackSessions) (accountId dateId : Uuid) (since now : Instant) :
    Prop :=
  ∀ lease ∈ s.screensOn accountId dateId since, holdsAScreen lease.toScreenLease now = true

/-- No opening on the date, no lease lapsing or released, and one allowance at every renewal. -/
def Undisturbed [WatchRules] (accountId dateId : Uuid) (since : Instant) (allowed : ℤ)
    (s : PlaybackSessions) (a : Instant × DeskStep) : Prop :=
  match a.2 with
  | .openPlayback request _ _ _ _ =>
    ¬ (request.viewer.accountId = accountId ∧ request.dateId = dateId)
  | .renewPlayback viewer sessionId _ facts _ _ =>
    viewer.accountId = accountId → (∃ row ∈ s.byId sessionId, row.dateId = dateId) →
      since ≤ a.1 ∧ s.NoneLapsed accountId dateId since a.1 ∧
        screensAllowedBy facts.entitlement = allowed
  | .releasePlayback _ sessionId =>
    ∀ lease ∈ s.screensOn accountId dateId since, lease.id ≠ sessionId
  | .revokeDevice _ => True
  | .sweep _ => s.NoneLapsed accountId dateId since a.1

/-- No device or profile revoked, and no renewal refused for anything but the screens. -/
def KeepsRight [WatchRules] (accountId dateId : Uuid) (since : Instant) (s : PlaybackSessions)
    (a : Instant × DeskStep) : Prop :=
  match a.2 with
  | .renewPlayback viewer sessionId viewerCountry facts _ _ =>
    viewer.accountId = accountId → (∃ row ∈ s.byId sessionId, row.dateId = dateId) →
      facts.Stands viewerCountry a.1
  | .revokeDevice target =>
    ∀ lease ∈ s.screensOn accountId dateId since, target.reaches lease = false
  | _ => True

/-- A step renews the session, asked by the viewer that holds it. -/
def Asks (s : PlaybackSessions) (id : Uuid) : DeskStep → Prop
  | .renewPlayback viewer sessionId _ _ _ _ => sessionId = id ∧ s.Asked viewer sessionId
  | _ => False

/-- Some step of the run asks for the session. -/
def AsksIn [WatchRules] (id : Uuid) : PlaybackSessions → List (Instant × DeskStep) → Prop
  | _, [] => False
  | s, a :: steps => s.Asks id a.2 ∨ AsksIn id (s.step a) steps

/-- The ranks of the leases that held a screen at `since`, of those still active. -/
def heldRanks [RunRules] (s : PlaybackSessions) (accountId dateId : Uuid) (since : Instant) :
    Finset (ℤ ×ₗ ℕ) :=
  ranksOf ((s.screensOn accountId dateId since).map PlaybackSession.toScreenLease)

section Ranks

variable [WatchRules] {s t : PlaybackSessions} {accountId dateId : Uuid} {since now : Instant}
  {row lease : PlaybackSession} {chosen : PlaybackSession → Bool}
  {write : PlaybackSession → PlaybackSession} {hwrite : ∀ row, (write row).id = row.id}

theorem mem_heldRanks {rank : ℤ ×ₗ ℕ} :
    rank ∈ s.heldRanks accountId dateId since ↔
      ∃ lease ∈ s.screensOn accountId dateId since, lease.toScreenLease.rank = rank := by
  simp [heldRanks, ranksOf]

theorem rank_mem_heldRanks (h : lease ∈ s.screensOn accountId dateId since) :
    lease.toScreenLease.rank ∈ s.heldRanks accountId dateId since :=
  mem_heldRanks.mpr ⟨lease, h, rfl⟩

/-- A lease whose rank is held is the one held. -/
theorem mem_screensOn_of_rank (hrow : row ∈ s.rows)
    (h : row.toScreenLease.rank ∈ s.heldRanks accountId dateId since) :
    row ∈ s.screensOn accountId dateId since := by
  obtain ⟨held, hheld, hrank⟩ := mem_heldRanks.mp h
  have hsame := s.eq_of_mem hrow (mem_screensOn.mp hheld).1 (ScreenLease.rank_injective hrank).symm
  rwa [hsame]

/-- A statement that keeps each chosen row held or not, under its rank, keeps the ranks held. -/
theorem heldRanks_updateActive
    (h : ∀ row ∈ s.rows, row.state = .active → chosen row = true →
      (((write row).isOn accountId dateId = true ∧
          holdsAScreen (write row).toScreenLease since = true) ↔
        (row.isOn accountId dateId = true ∧ holdsAScreen row.toScreenLease since = true)) ∧
      (row.isOn accountId dateId = true → holdsAScreen row.toScreenLease since = true →
        (write row).toScreenLease.rank = row.toScreenLease.rank)) :
    (s.updateActive chosen write hwrite).heldRanks accountId dateId since =
      s.heldRanks accountId dateId since := by
  ext rank
  rw [mem_heldRanks, mem_heldRanks]
  constructor
  · rintro ⟨lease, hlease, rfl⟩
    obtain ⟨hmem, hheld⟩ := mem_screensOn.mp hlease
    obtain ⟨old, hold, ⟨rfl, _⟩ | ⟨rfl, hactive, hchosen⟩⟩ := mem_updateActive hmem
    · exact ⟨lease, mem_screensOn.mpr ⟨hold, hheld⟩, rfl⟩
    · obtain ⟨hiff, hrank⟩ := h old hold hactive hchosen
      have hbefore := hiff.mp hheld
      exact ⟨old, mem_screensOn.mpr ⟨hold, hbefore⟩, (hrank hbefore.1 hbefore.2).symm⟩
  · rintro ⟨lease, hlease, rfl⟩
    obtain ⟨hmem, hheld⟩ := mem_screensOn.mp hlease
    by_cases hwritten : lease.state = .active ∧ chosen lease = true
    · obtain ⟨hiff, hrank⟩ := h lease hmem hwritten.1 hwritten.2
      refine ⟨write lease, mem_screensOn.mpr ⟨?_, hiff.mpr hheld⟩, hrank hheld.1 hheld.2⟩
      exact List.mem_map.mpr ⟨lease, hmem, if_pos hwritten⟩
    · exact ⟨lease, mem_screensOn.mpr ⟨mem_updateActive_of_not hmem hwritten, hheld⟩, rfl⟩

/-- Closing no held row keeps the ranks. -/
theorem heldRanks_closing (hclosed : ∀ row, (write row).state ≠ .active)
    (hspared : ∀ lease ∈ s.screensOn accountId dateId since, chosen lease = false) :
    (s.updateActive chosen write hwrite).heldRanks accountId dateId since =
      s.heldRanks accountId dateId since := by
  apply heldRanks_updateActive
  intro row hrow _ hchosen
  have hnot : ¬ (row.isOn accountId dateId = true ∧
      holdsAScreen row.toScreenLease since = true) := by
    intro hheld
    rw [hspared row (mem_screensOn.mpr ⟨hrow, hheld⟩)] at hchosen
    cases hchosen
  refine ⟨iff_of_false ?_ hnot, fun hon hholds => absurd ⟨hon, hholds⟩ hnot⟩
  exact fun hheld => hclosed row (isOn_iff.mp hheld.1).2.2

theorem heldRanks_closeActive {ids : List Uuid} {state : PlaybackSessionState}
    {reason : Option RevokeReason} (hstate : state ≠ .active)
    (hspared : ∀ lease ∈ s.screensOn accountId dateId since, lease.id ∉ ids) :
    (s.closeActive ids state reason now).heldRanks accountId dateId since =
      s.heldRanks accountId dateId since :=
  heldRanks_closing (fun _ => hstate) fun lease hlease => decide_eq_false (hspared lease hlease)

/-- A held lease revoked leaves its rank. -/
theorem heldRanks_revoke (hlease : lease ∈ s.screensOn accountId dateId since)
    (reason : RevokeReason) :
    (s.revoke [lease.id] reason now).heldRanks accountId dateId since =
      (s.heldRanks accountId dateId since).erase lease.toScreenLease.rank := by
  ext rank
  rw [Finset.mem_erase, mem_heldRanks, mem_heldRanks]
  constructor
  · rintro ⟨left, hleft, rfl⟩
    obtain ⟨hmem, hon, hholds⟩ := mem_screensOn.mp hleft
    obtain ⟨hbefore, hspared⟩ := mem_of_closeActive hmem (by decide) (isOn_iff.mp hon).2.2
    refine ⟨?_, left, mem_screensOn.mpr ⟨hbefore, hon, hholds⟩, rfl⟩
    intro hrank
    apply hspared
    rw [List.mem_singleton]
    exact ScreenLease.rank_injective hrank
  · rintro ⟨hne, left, hleft, rfl⟩
    obtain ⟨hmem, hheld⟩ := mem_screensOn.mp hleft
    refine ⟨left, mem_screensOn.mpr ⟨mem_closeActive_of_notMem hmem ?_, hheld⟩, rfl⟩
    intro hchosen
    apply hne
    rw [s.eq_of_mem hmem (mem_screensOn.mp hlease).1 (List.mem_singleton.mp hchosen)]

/-- A held lease renewed keeps its rank, and stays held. -/
theorem heldRanks_renew [LawfulWatchRules] {issue : Issue} (hsince : since < issue.leaseExpiresAt)
    (hlease : lease ∈ s.screensOn accountId dateId since) :
    (s.renew lease.id issue).1.heldRanks accountId dateId since =
      s.heldRanks accountId dateId since := by
  simp only [PlaybackSessions.renew]
  apply heldRanks_updateActive
  intro row hrow _ hchosen
  obtain rfl := s.eq_of_mem hrow (mem_screensOn.mp hlease).1 (of_decide_eq_true hchosen)
  obtain ⟨_, hon, hholds⟩ := mem_screensOn.mp hlease
  refine ⟨iff_of_true ⟨hon, ?_⟩ ⟨hon, hholds⟩, fun _ _ => rfl⟩
  exact (LawfulRunRules.isAfter_iff _ _).mpr hsince

end Ranks

/-! ## Elsewhere -/

section Elsewhere

variable [WatchRules] {s t u : PlaybackSessions} {accountId dateId : Uuid} {since now : Instant}

/-- The account's active rows on the date are the same. -/
def SameOn (accountId dateId : Uuid) (s t : PlaybackSessions) : Prop :=
  ∀ row : PlaybackSession, row.isOn accountId dateId = true → (row ∈ t.rows ↔ row ∈ s.rows)

omit [WatchRules] in
theorem SameOn.trans (h : SameOn accountId dateId s t) (h' : SameOn accountId dateId t u) :
    SameOn accountId dateId s u := fun row hon => (h' row hon).trans (h row hon)

theorem SameOn.heldRanks (h : SameOn accountId dateId s t) :
    t.heldRanks accountId dateId since = s.heldRanks accountId dateId since := by
  ext rank
  rw [mem_heldRanks, mem_heldRanks]
  apply exists_congr
  intro lease
  rw [mem_screensOn, mem_screensOn]
  constructor
  · rintro ⟨⟨hmem, hon, hholds⟩, hrank⟩
    exact ⟨⟨(h lease hon).mp hmem, hon, hholds⟩, hrank⟩
  · rintro ⟨⟨hmem, hon, hholds⟩, hrank⟩
    exact ⟨⟨(h lease hon).mpr hmem, hon, hholds⟩, hrank⟩

omit [WatchRules] in
/-- Rows closed are not on the date. -/
theorem sameOn_closeActive {ids : List Uuid} {state : PlaybackSessionState}
    {reason : Option RevokeReason} (hstate : state ≠ .active)
    (hspared : ∀ row ∈ s.rows, row.isOn accountId dateId = true → row.id ∉ ids) :
    SameOn accountId dateId s (s.closeActive ids state reason now) := by
  intro row hon
  constructor
  · exact fun h => (mem_of_closeActive h hstate (isOn_iff.mp hon).2.2).1
  · exact fun h => mem_closeActive_of_notMem h (hspared row h hon)

variable {request : OpeningRequest} {facts : DeskFacts} {id tokenId : Uuid} {signs : Bool}

/-- An opening on another date, or of another account, leaves the date's rows. -/
theorem sameOn_openPlayback
    (hother : ¬ (request.viewer.accountId = accountId ∧ request.dateId = dateId)) :
    SameOn accountId dateId s (s.openPlayback request facts id tokenId signs now).state := by
  have helsewhere : ∀ row : PlaybackSession, row.isOn accountId dateId = true →
      ¬ row.isOn request.viewer.accountId request.dateId = true := by
    intro row hon hrequest
    obtain ⟨haccount, hdate, _⟩ := isOn_iff.mp hon
    obtain ⟨hopener, hdate', _⟩ := isOn_iff.mp hrequest
    exact hother ⟨hopener.symm.trans haccount, hdate'.symm.trans hdate⟩
  have hexpired : ∀ lapsed : List PlaybackSession,
      (∀ lease ∈ lapsed, lease ∈ s.activeOnDate request.viewer.accountId request.dateId) →
        SameOn accountId dateId s (s.expire (lapsed.map fun lease => lease.id) now) := by
    intro lapsed hlapsed
    apply sameOn_closeActive (by decide)
    intro row hrow hon hmem
    obtain ⟨lease, hlease, hid⟩ := List.mem_map.mp hmem
    obtain ⟨hactive, hrequest⟩ := mem_activeOnDate.mp (hlapsed lease hlease)
    obtain rfl := s.eq_of_mem hrow hactive hid.symm
    exact helsewhere row hon hrequest
  have hcleared : SameOn accountId dateId s (s.cleared request facts now) := by
    simp only [cleared]
    have hlapsed := hexpired ((s.activeOnDate request.viewer.accountId request.dateId).filter
      fun lease => !holdsAScreen lease.toScreenLease now) fun lease h => (List.mem_filter.mp h).1
    apply hlapsed.trans
    apply sameOn_closeActive (by decide)
    intro row hrow hon hmem
    obtain ⟨taken, htaken, hid⟩ := List.mem_map.mp hmem
    obtain ⟨lease, hlease, rfl⟩ := List.mem_map.mp (mem_of_mem_leasesTakenOverBy htaken)
    obtain ⟨hactive, hrequest, _⟩ := mem_screensOn.mp (List.mem_filter.mp hlease).1
    obtain rfl := s.eq_of_mem ((hlapsed row hon).mp hrow) hactive hid.symm
    exact helsewhere row hon hrequest
  rcases openPlayback_cases s request facts id tokenId signs now with
    ⟨issue, t, answered, resumes, hopen, hissue, hlease⟩ | ⟨refusal, hopen, _⟩
  · rw [hopen]
    apply hcleared.trans
    intro row hon
    apply (leaseFor_spec (fun own hown => resumed_ownId hown) hlease).1.others
    rintro ⟨hopener, hdate, _⟩
    exact helsewhere row hon (isOn_iff.mpr ⟨hopener, hdate, (isOn_iff.mp hon).2.2⟩)
  · rw [hopen]
    exact fun _ _ => Iff.rfl

end Elsewhere

/-! ## A renewal -/

section Renewals

variable [WatchRules] [LawfulWatchRules] {s : PlaybackSessions} {accountId dateId : Uuid}
  {since now : Instant} {allowed : ℤ} {found : PlaybackSession}

omit [LawfulWatchRules] in
/-- The rank held under a session's id is its row's. -/
theorem rank_eq_of_mem_heldRanks {sessionId : Uuid} (hfound : s.byId sessionId = some found)
    {rank : ℤ ×ₗ ℕ} (hrank : rank ∈ s.heldRanks accountId dateId since)
    (hid : (ofLex rank).2 = sessionId) :
    rank = found.toScreenLease.rank ∧ found ∈ s.screensOn accountId dateId since := by
  obtain ⟨lease, hlease, rfl⟩ := mem_heldRanks.mp hrank
  obtain ⟨hmem, hkey⟩ := Table.find?_eq_some_iff.mp hfound
  obtain rfl := s.eq_of_mem (mem_screensOn.mp hlease).1 hmem (hid.trans hkey.symm)
  exact ⟨rfl, hlease⟩

/-- While none lapses, the screens held now are those held at `since`. -/
theorem newer_eq_above (hsince : since ≤ now) (hlapsed : s.NoneLapsed accountId dateId since now)
    (hfound : found ∈ s.screensOn accountId dateId since) :
    newerScreensThan found.toScreenLease
        ((s.screensOn accountId dateId now).map PlaybackSession.toScreenLease) now =
      above (s.heldRanks accountId dateId since) found.toScreenLease.rank := by
  have hsame : ∀ lease, lease ∈ s.screensOn accountId dateId now ↔
      lease ∈ s.screensOn accountId dateId since := by
    intro lease
    constructor
    · intro hnow
      obtain ⟨hmem, hon, hholds⟩ := mem_screensOn.mp hnow
      have hlater := (LawfulRunRules.isAfter_iff _ _).mp hholds
      have hearlier : holdsAScreen lease.toScreenLease since = true :=
        (LawfulRunRules.isAfter_iff _ _).mpr (lt_of_le_of_lt hsince hlater)
      exact mem_screensOn.mpr ⟨hmem, hon, hearlier⟩
    · intro hthen
      obtain ⟨hmem, hon, _⟩ := mem_screensOn.mp hthen
      exact mem_screensOn.mpr ⟨hmem, hon, hlapsed lease hthen⟩
  rw [newerScreensThan_eq]
  · congr 1
    unfold heldRanks ranksOf
    ext rank
    simp [hsame]
  · exact List.mem_map_of_mem ((hsame found).mpr hfound)
  · rw [List.map_map]
    exact (s.activeOnDate_ids accountId dateId).sublist (List.filter_sublist.map _)
  · intro other hother
    obtain ⟨lease, hlease, rfl⟩ := List.mem_map.mp hother
    exact (mem_screensOn.mp hlease).2.2

/-- Whether a lease renewed is kept is whether its rank may stay. -/
theorem heldRanks_renewPlayback {viewer : Viewer} {sessionId : Uuid} {viewerCountry : String}
    {facts : DeskFacts} {tokenId : Uuid} {signs : Bool}
    (hfound : s.byId sessionId = some found) (haccount : found.accountId = accountId)
    (hdate : found.dateId = dateId) (hsince : since ≤ now)
    (hlapsed : s.NoneLapsed accountId dateId since now)
    (hallowed : screensAllowedBy facts.entitlement = allowed) (hstands : facts.Stands viewerCountry now)
    (hasked : s.Asked viewer sessionId) :
    (s.renewPlayback viewer sessionId viewerCountry facts tokenId signs now).state.heldRanks
        accountId dateId since =
      ask allowed.toNat (s.heldRanks accountId dateId since) found.toScreenLease.rank := by
  have hmem := Table.mem_of_find? hfound
  have hnot : ¬ found ∈ s.screensOn accountId dateId since →
      ask allowed.toNat (s.heldRanks accountId dateId since) found.toScreenLease.rank =
        s.heldRanks accountId dateId since := by
    intro hspared
    exact ask_of_notMem fun hrank => hspared (mem_screensOn_of_rank hmem hrank)
  rcases renewPlayback_cases s viewer sessionId viewerCountry facts tokenId signs now with
    ⟨_, hnever⟩ | ⟨other, hother, -, hcases⟩
  · exact absurd hasked hnever
  · obtain rfl := Option.some.inj (hother.symm.trans hfound)
    have hlease : other.state = .active → holdsAScreen other.toScreenLease now = true →
        other ∈ s.screensOn accountId dateId since := by
      intro hactive hholds
      refine mem_screensOn.mpr ⟨hmem, isOn_iff.mpr ⟨haccount, hdate, hactive⟩, ?_⟩
      have hlater := (LawfulRunRules.isAfter_iff _ _).mp hholds
      exact (LawfulRunRules.isAfter_iff _ _).mpr (lt_of_le_of_lt hsince hlater)
    have hverdict : other ∈ s.screensOn accountId dateId since →
        s.renewalVerdict other viewerCountry facts now =
          verdictOf facts.entitlement facts.runState
            ⟨above (s.heldRanks accountId dateId since) other.toScreenLease.rank, allowed⟩
            facts.previewSecondsLeft viewerCountry now := by
      intro hheld
      simp only [renewalVerdict]
      rw [haccount, hdate, newer_eq_above hsince hlapsed hheld, hallowed]
    rcases hcases with ⟨hactive, hsame⟩ | ⟨hactive, hlapse, hexpired⟩ |
      ⟨hactive, hholds, reason, hreason, hrevoked⟩ | ⟨hactive, hholds, issue, hissue, hstate⟩
    · rw [hsame, hnot]
      exact fun h => hactive (isOn_iff.mp (mem_screensOn.mp h).2.1).2.2
    · have hspared : ¬ other ∈ s.screensOn accountId dateId since := by
        intro h
        rw [hlapsed other h] at hlapse
        cases hlapse
      rw [hexpired, hnot hspared]
      apply heldRanks_closeActive (by decide)
      intro lease hlease hid
      obtain rfl := s.eq_of_mem hmem (mem_screensOn.mp hlease).1 (List.mem_singleton.mp hid).symm
      exact hspared hlease
    · have hheld := hlease hactive hholds
      rw [hverdict hheld] at hreason
      rw [hrevoked, heldRanks_revoke hheld]
      unfold ask
      split_ifs with hfew
      · obtain ⟨issue, hissue⟩ := hstands _ _ tokenId (Int.lt_toNat.mp hfew)
        rw [hissue] at hreason
        cases hreason
      · rfl
    · have hheld := hlease hactive hholds
      rw [hverdict hheld] at hissue
      have hkept : (s.renewPlayback viewer sessionId viewerCountry facts tokenId signs
          now).state.heldRanks accountId dateId since = s.heldRanks accountId dateId since := by
        rcases hstate with hsame | hrenewed
        · rw [hsame]
        · rw [hrenewed]
          apply heldRanks_renew _ hheld
          rw [issueFor_lease hissue]
          exact lt_of_le_of_lt hsince (LawfulWatchRules.lease_outlasts now)
      rw [hkept]
      unfold ask
      split_ifs with hfew
      · rfl
      · have hreached : allowed ≤ (above (s.heldRanks accountId dateId since)
            other.toScreenLease.rank : ℤ) := by
          rw [Int.lt_toNat] at hfew
          exact not_lt.mp hfew
        obtain ⟨reason, hrefused⟩ := issueFor_refused facts.entitlement facts.runState
          facts.previewSecondsLeft viewerCountry facts.cover tokenId now hreached
        rw [hrefused] at hissue
        cases hissue

omit [LawfulWatchRules] in
/-- A renewal of a lease that is not on the date leaves the date's ranks. -/
theorem heldRanks_renewPlayback_elsewhere (viewer : Viewer) (sessionId : Uuid)
    (viewerCountry : String) (facts : DeskFacts) (tokenId : Uuid) (signs : Bool)
    (hother : ∀ found, s.byId sessionId = some found → s.Asked viewer sessionId →
      ¬ found.isOn accountId dateId = true) :
    (s.renewPlayback viewer sessionId viewerCountry facts tokenId signs now).state.heldRanks
        accountId dateId since = s.heldRanks accountId dateId since := by
  rcases renewPlayback_cases s viewer sessionId viewerCountry facts tokenId signs now with
    ⟨hsame, _⟩ | ⟨found, hfound, hasked, hcases⟩
  · rw [hsame]
  · have hnot := hother found hfound hasked
    have hspared : ∀ lease ∈ s.screensOn accountId dateId since, lease.id ∉ [found.id] := by
      intro lease hlease hid
      obtain ⟨hmem, hon, _⟩ := mem_screensOn.mp hlease
      obtain rfl := s.eq_of_mem hmem (Table.mem_of_find? hfound) (List.mem_singleton.mp hid)
      exact hnot hon
    rcases hcases with ⟨_, hsame⟩ | ⟨_, _, hexpired⟩ | ⟨_, _, _, _, hrevoked⟩ |
      ⟨_, _, issue, _, hsame | hrenewed⟩
    · rw [hsame]
    · rw [hexpired]
      exact heldRanks_closeActive (by decide) hspared
    · rw [hrevoked]
      exact heldRanks_closeActive (by decide) hspared
    · rw [hsame]
    · rw [hrenewed]
      simp only [PlaybackSessions.renew]
      apply heldRanks_updateActive
      intro row hrow _ hchosen
      obtain rfl := s.eq_of_mem hrow (Table.mem_of_find? hfound) (of_decide_eq_true hchosen)
      exact ⟨iff_of_false (fun h => hnot h.1) (fun h => hnot h.1), fun h => absurd h hnot⟩

/-- What a step asks of the ranks held: one question at most, the one of the lease it renews. -/
theorem step_heldRanks {a : Instant × DeskStep}
    (hundisturbed : Undisturbed accountId dateId since allowed s a)
    (hright : KeepsRight accountId dateId since s a) :
    ∃ asks : List (ℤ ×ₗ ℕ),
      (s.step a).heldRanks accountId dateId since =
        asks.foldl (ask allowed.toNat) (s.heldRanks accountId dateId since) ∧
      ∀ id, s.Asks id a.2 → ∀ rank ∈ s.heldRanks accountId dateId since,
        (ofLex rank).2 = id → rank ∈ asks := by
  obtain ⟨now, a⟩ := a
  cases a with
  | openPlayback request facts id tokenId signs =>
      exact ⟨[], (sameOn_openPlayback hundisturbed).heldRanks, fun _ h => h.elim⟩
  | renewPlayback viewer sessionId viewerCountry facts tokenId signs =>
      by_cases hon : viewer.accountId = accountId ∧ ∃ row ∈ s.byId sessionId, row.dateId = dateId
      · obtain ⟨haccount, found, hfound, hdate⟩ := hon
        obtain ⟨hsince, hlapsed, hallowed⟩ := hundisturbed haccount ⟨found, hfound, hdate⟩
        have hstands := hright haccount ⟨found, hfound, hdate⟩
        by_cases hasked : s.Asked viewer sessionId
        · have hopener : found.accountId = accountId := by
            obtain ⟨other, hother, hcaller, _⟩ := hasked
            obtain rfl := Option.some.inj (hother.symm.trans hfound)
            exact hcaller.trans haccount
          refine ⟨[found.toScreenLease.rank], ?_, ?_⟩
          · exact heldRanks_renewPlayback hfound hopener hdate hsince hlapsed hallowed hstands hasked
          · rintro id ⟨rfl, _⟩ rank hrank hid
            exact List.mem_singleton.mpr (rank_eq_of_mem_heldRanks hfound hrank hid).1
        · refine ⟨[], ?_, fun id h => absurd h.2 hasked⟩
          exact heldRanks_renewPlayback_elsewhere viewer sessionId viewerCountry facts tokenId signs
            fun _ _ h => absurd h hasked
      · have hother : ∀ found, s.byId sessionId = some found → s.Asked viewer sessionId →
            ¬ found.isOn accountId dateId = true := by
          rintro found hfound ⟨asked, hmem, hcaller, _⟩ hactive
          obtain rfl := Option.some.inj (hmem.symm.trans hfound)
          obtain ⟨haccount, hdate, _⟩ := isOn_iff.mp hactive
          exact hon ⟨hcaller.symm.trans haccount, asked, hfound, hdate⟩
        refine ⟨[], ?_, ?_⟩
        · exact heldRanks_renewPlayback_elsewhere viewer sessionId viewerCountry facts tokenId signs
            hother
        · rintro id ⟨rfl, hasked⟩ rank hrank hid
          obtain ⟨found, hfound, hcaller⟩ := hasked
          obtain ⟨_, hheld⟩ := rank_eq_of_mem_heldRanks hfound hrank hid
          exact absurd (mem_screensOn.mp hheld).2.1 (hother found hfound ⟨found, hfound, hcaller⟩)
  | releasePlayback account sessionId =>
      refine ⟨[], ?_, fun _ h => h.elim⟩
      simp only [step, releasePlayback]
      split
      · rfl
      · rename_i found hfound
        split_ifs
        · rfl
        · apply heldRanks_closeActive (by decide)
          intro lease hlease hid
          apply hundisturbed lease hlease
          exact (List.mem_singleton.mp hid).trans (Table.find?_eq_some_iff.mp hfound).2
  | revokeDevice target =>
      refine ⟨[], ?_, fun _ h => h.elim⟩
      simp only [step, revokeDevice]
      exact heldRanks_closing (fun _ => PlaybackSessionState.noConfusion) hright
  | sweep picked =>
      refine ⟨[], ?_, fun _ h => h.elim⟩
      simp only [step, expireLapsed]
      apply heldRanks_closing (fun _ => PlaybackSessionState.noConfusion)
      intro lease hlease
      have hholds := (LawfulRunRules.isAfter_iff _ _).mp (hundisturbed lease hlease)
      rw [Bool.and_eq_false_iff]
      exact .inl (decide_eq_false (not_le.mpr hholds))

/-- What a run asks of the ranks held, the question of each lease it renews among them. -/
theorem run_heldRanks {steps : List (Instant × DeskStep)}
    (h : Admitted (fun s a => Undisturbed accountId dateId since allowed s a ∧
      KeepsRight accountId dateId since s a) step s steps) :
    ∃ asks : List (ℤ ×ₗ ℕ),
      (s.run steps).heldRanks accountId dateId since =
        asks.foldl (ask allowed.toNat) (s.heldRanks accountId dateId since) ∧
      ∀ id, AsksIn id s steps → ∀ rank ∈ (s.run steps).heldRanks accountId dateId since,
        (ofLex rank).2 = id → rank ∈ asks := by
  induction steps generalizing s with
  | nil => exact ⟨[], rfl, fun _ h => h.elim⟩
  | cons a steps ih =>
      obtain ⟨⟨hundisturbed, hright⟩, hrest⟩ := h
      obtain ⟨asks, hasks, hasked⟩ := step_heldRanks hundisturbed hright
      obtain ⟨later, hlater, haskedLater⟩ := ih hrest
      have hrun : (s.run (a :: steps)).heldRanks accountId dateId since =
          later.foldl (ask allowed.toNat) (asks.foldl (ask allowed.toNat)
            (s.heldRanks accountId dateId since)) := by
        rw [← hasks, ← hlater]
        rfl
      refine ⟨asks ++ later, ?_, ?_⟩
      · rw [hrun, List.foldl_append]
      · intro id hin rank hrank hid
        rw [List.mem_append]
        rcases hin with hfirst | hthen
        · rw [hrun] at hrank
          have hheld := foldl_ask_subset asks _ (foldl_ask_subset later _ hrank)
          exact .inl (hasked id hfirst rank hheld hid)
        · exact .inr (haskedLater id hthen rank hrank hid)

/-- Once each lease held has asked, the highest ranks are left. -/
theorem heldRanks_eq_top {steps : List (Instant × DeskStep)}
    (h : Admitted (fun s a => Undisturbed accountId dateId since allowed s a ∧
      KeepsRight accountId dateId since s a) step s steps)
    (hasked : ∀ lease ∈ s.screensOn accountId dateId since, AsksIn lease.id s steps) :
    (s.run steps).heldRanks accountId dateId since =
      top allowed.toNat (s.heldRanks accountId dateId since) := by
  obtain ⟨asks, hasks, hin⟩ := run_heldRanks h
  rw [hasks]
  apply foldl_ask_eq_top
  intro rank hrank
  obtain ⟨lease, hlease, rfl⟩ := mem_heldRanks.mp (foldl_ask_subset asks _ hrank)
  rw [← hasks] at hrank
  exact hin lease.id (hasked lease hlease) _ hrank rfl

omit [LawfulWatchRules] in
theorem card_heldRanks (s : PlaybackSessions) (accountId dateId : Uuid) (since : Instant) :
    (s.heldRanks accountId dateId since).card = (s.screensOn accountId dateId since).length := by
  unfold heldRanks ranksOf
  rw [List.toFinset_card_of_nodup, List.length_map, List.length_map]
  apply ranks_nodup
  rw [List.map_map]
  exact (s.activeOnDate_ids accountId dateId).sublist (List.filter_sublist.map _)

/-- The leases left are the `allowed` opened last of those held, or all when they are fewer. -/
theorem screens_left {steps : List (Instant × DeskStep)}
    (h : Admitted (fun s a => Undisturbed accountId dateId since allowed s a ∧
      KeepsRight accountId dateId since s a) step s steps)
    (hasked : ∀ lease ∈ s.screensOn accountId dateId since, AsksIn lease.id s steps) :
    (∀ id, (∃ left ∈ (s.run steps).screensOn accountId dateId since, left.id = id) ↔
      ∃ lease ∈ s.screensOn accountId dateId since, lease.id = id ∧
        (newerScreensThan lease.toScreenLease
          ((s.screensOn accountId dateId since).map PlaybackSession.toScreenLease) since : ℤ) <
            allowed) ∧
      ((s.run steps).screensOn accountId dateId since).length =
        min allowed.toNat (s.screensOn accountId dateId since).length := by
  have htop := heldRanks_eq_top h hasked
  constructor
  · intro id
    have hnewer : ∀ lease ∈ s.screensOn accountId dateId since,
        ((newerScreensThan lease.toScreenLease ((s.screensOn accountId dateId since).map
          PlaybackSession.toScreenLease) since : ℤ) < allowed ↔
            lease.toScreenLease.rank ∈ (s.run steps).heldRanks accountId dateId since) := by
      intro lease hlease
      rw [newer_eq_above le_rfl (fun other hother => (mem_screensOn.mp hother).2.2) hlease, htop,
        mem_top, Int.lt_toNat]
      exact ⟨fun h => ⟨rank_mem_heldRanks hlease, h⟩, fun h => h.2⟩
    constructor
    · rintro ⟨left, hleft, rfl⟩
      have hrank := rank_mem_heldRanks hleft
      have hbefore := hrank
      rw [htop] at hbefore
      obtain ⟨lease, hlease, hsame⟩ := mem_heldRanks.mp (top_subset hbefore)
      refine ⟨lease, hlease, ScreenLease.rank_injective hsame, (hnewer lease hlease).mpr ?_⟩
      rw [hsame]
      exact hrank
    · rintro ⟨lease, hlease, rfl, hfew⟩
      obtain ⟨left, hleft, hsame⟩ := mem_heldRanks.mp ((hnewer lease hlease).mp hfew)
      exact ⟨left, hleft, ScreenLease.rank_injective hsame⟩
  · rw [← card_heldRanks, ← card_heldRanks, htop, card_top]

/-- One active lease a device at most, whatever the transactions; an opening within the allowance
and never refused for it; and renewals that leave the leases opened last, whatever their order. -/
theorem screens_under_allowance (steps : List (Instant × DeskStep)) :
    let s := run Table.empty steps
    s.OneActive ∧
      (∀ request facts id tokenId signs now, 1 ≤ screensAllowedBy facts.entitlement →
        let reply := s.openPlayback request facts id tokenId signs now
        let screens := reply.state.screensOn request.viewer.accountId request.dateId now
        (∀ opened, reply.result = .ok opened →
          (screens.length : ℤ) ≤ screensAllowedBy facts.entitlement ∧ opened.session ∈ screens ∧
            opened.session.deviceId = request.viewer.deviceId) ∧
          ∀ allowed listed, reply.result ≠ .error (.screens allowed listed)) ∧
      ∀ accountId dateId since allowed later,
        Admitted (fun s a => Undisturbed accountId dateId since allowed s a ∧
          KeepsRight accountId dateId since s a) step s later →
        let held := s.screensOn accountId dateId since
        let left := (s.run later).screensOn accountId dateId since
        (∀ lease ∈ held, AsksIn lease.id s later) →
          (∀ id, (∃ lease ∈ left, lease.id = id) ↔ ∃ lease ∈ held, lease.id = id ∧
            (newerScreensThan lease.toScreenLease (held.map PlaybackSession.toScreenLease) since :
              ℤ) < allowed) ∧
          left.length = min allowed.toNat held.length := by
  intro s
  have hone : s.OneActive := run_oneActive steps empty_oneActive
  refine ⟨hone, ?_, ?_⟩
  · intro request facts id tokenId signs now hallowed reply screens
    refine ⟨?_, openPlayback_not_limited hallowed⟩
    intro opened hopened
    obtain ⟨hmem, hdevice⟩ := opened_mem_screensOn hopened
    exact ⟨screens_le_allowed hone hallowed hopened, hmem, hdevice⟩
  · intro accountId dateId since allowed later hadmitted held left hasked
    exact screens_left hadmitted hasked

end Renewals

end PlaybackSessions

/-! ## The allowance falls, and a viewer crosses a border -/

section Sample

open Arthome.Core.Sample

namespace PlaybackSessions

instance (s : PlaybackSessions) (viewer : Viewer) (sessionId : Uuid) :
    Decidable (s.Asked viewer sessionId) :=
  inferInstanceAs (Decidable (∃ found ∈ s.byId sessionId, _ ∧ _))

instance (s : PlaybackSessions) (id : Uuid) : ∀ a, Decidable (s.Asks id a)
  | .renewPlayback .. => inferInstanceAs (Decidable (_ ∧ _))
  | .openPlayback .. | .releasePlayback .. | .revokeDevice .. | .sweep .. => isFalse fun h => h

instance decidableAsksIn [WatchRules] (id : Uuid) :
    ∀ (s : PlaybackSessions) (steps : List (Instant × DeskStep)), Decidable (AsksIn id s steps)
  | _, [] => isFalse fun h => h
  | s, a :: steps =>
    have := decidableAsksIn id (s.step a) steps
    inferInstanceAs (Decidable (_ ∨ _))

/-- An account with so many seats on a date closed to one country. -/
def sampleFacts (activeSeats : ℤ) : DeskFacts where
  entitlement :=
    { activeSeatsOnDate := activeSeats
      seatExpired := false
      planOpenings := []
      date := some ⟨some ⟨0, 60, 30, .included, 48⟩, some .live, none,
        some ⟨.restricted, ["BE"], some .festival⟩⟩ }
  runState := some .onAir
  previewSecondsLeft := 0
  cover := none

/-- Two devices open a screen each, under two seats. -/
def sampleOpenings : List (Instant × DeskStep) :=
  [(1000, .openPlayback ⟨⟨1, 7, 11⟩, 5, .storefrontWeb, "FR"⟩ (sampleFacts 2) 101 201 true),
    (2000, .openPlayback ⟨⟨1, 7, 12⟩, 5, .storefrontTv, "FR"⟩ (sampleFacts 2) 102 202 true)]

/-- One seat is cancelled, and both ask, the one opened last first. -/
def sampleRenewals : List (Instant × DeskStep) :=
  [(3000, .renewPlayback ⟨1, 7, 12⟩ 102 "FR" (sampleFacts 1) 203 true),
    (4000, .renewPlayback ⟨1, 7, 11⟩ 101 "FR" (sampleFacts 1) 204 true)]

theorem sampleFacts_stands (activeSeats : ℤ) (hseat : 0 < activeSeats) (now : Instant) :
    (sampleFacts activeSeats).Stands "FR" now := by
  intro opened allowed tokenId hfew
  have hnot : ¬ allowed ≤ opened := not_le.mpr hfew
  simp [sampleFacts, verdictOf, issueFor, WatchRules.decideWatch, hnot, hseat]

theorem screens_under_allowance_sample :
    let s := run Table.empty sampleOpenings
    s.OneActive ∧ (s.screensOn 1 5 2000).length = 2 ∧
      ((s.run sampleRenewals).screensOn 1 5 2000).length = 1 := by
  intro s
  obtain ⟨hone, -, hsettle⟩ := screens_under_allowance sampleOpenings
  refine ⟨hone, by decide +kernel, ?_⟩
  have hadmitted : Admitted (fun s a => Undisturbed 1 5 2000 1 s a ∧ KeepsRight 1 5 2000 s a) step s
      sampleRenewals := by
    refine ⟨⟨?_, ?_⟩, ⟨?_, ?_⟩, trivial⟩
    · exact fun _ _ => ⟨by decide, by unfold NoneLapsed; decide +kernel, by decide⟩
    · exact fun _ _ => sampleFacts_stands 1 (by decide) 3000
    · exact fun _ _ => ⟨by decide, by unfold NoneLapsed; decide +kernel, by decide⟩
    · exact fun _ _ => sampleFacts_stands 1 (by decide) 4000
  have hasked : ∀ lease ∈ s.screensOn 1 5 2000, AsksIn lease.id s sampleRenewals := by
    decide +kernel
  rw [(hsettle 1 5 2000 1 sampleRenewals hadmitted hasked).2]
  decide +kernel

/-- The lease opened last is revoked, as its renewal comes from a country the date is closed to. -/
theorem renewal_refused_for_territory :
    ∃ s a, (∃ steps, s = run Table.empty steps) ∧
      Admitted (Undisturbed 1 5 1000 1) step s [a] ∧
      (∀ lease ∈ s.screensOn 1 5 1000, AsksIn lease.id s [a]) ∧
      (s.screensOn 1 5 1000).length = 1 ∧ (s.run [a]).screensOn 1 5 1000 = [] := by
  refine ⟨run Table.empty (sampleOpenings.take 1),
    (3000, .renewPlayback ⟨1, 7, 11⟩ 101 "BE" (sampleFacts 1) 203 true), ⟨_, rfl⟩, ?_, ?_, ?_, ?_⟩
  · exact ⟨fun _ _ => ⟨by decide, by unfold NoneLapsed; decide +kernel, by decide⟩, trivial⟩
  · decide +kernel
  · decide +kernel
  · decide +kernel

end PlaybackSessions

end Sample

end Arthome.Streaming
