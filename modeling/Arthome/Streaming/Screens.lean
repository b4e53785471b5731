import Arthome.Library.Machine
import Arthome.Streaming.PlaybackDesk

/-!
# Screens under the allowance

Whatever transactions follow one another, a device has one active lease at most, an
opening leaves no more leases than the allowance and is never refused for their
number. Renewals under one allowance leave the leases opened last, whatever their
order, as long as nothing but the number of screens refuses one.
-/

namespace Arthome.Streaming

open Arthome.Core Library

/-- A row of the opener's account, date and device. -/
def OpeningRequest.IsFor (request : OpeningRequest) (row : PlaybackSession) : Prop :=
  row.accountId = request.viewer.accountId ∧ row.dateId = request.dateId ∧
    row.deviceId = request.viewer.deviceId

namespace PlaybackSessions

/-! ## What the statements leave -/

section Statements

variable {s t : PlaybackSessions} {accountId dateId : Uuid} {row : PlaybackSession}
  {chosen : PlaybackSession → Bool} {write : PlaybackSession → PlaybackSession}
  {hwrite : ∀ row, (write row).id = row.id} {ids : List Uuid} {state : PlaybackSessionState}
  {reason : Option RevokeReason} {now : Instant}

theorem isOn_iff : row.isOn accountId dateId = true ↔
    row.accountId = accountId ∧ row.dateId = dateId ∧ row.state = .active := by
  unfold PlaybackSession.isOn
  rw [Bool.and_eq_true, Bool.and_eq_true, decide_eq_true_eq, decide_eq_true_eq, decide_eq_true_eq,
    and_assoc]

theorem mem_updateActive (h : row ∈ (s.updateActive chosen write hwrite).rows) :
    ∃ old ∈ s.rows, row = old ∧ ¬ (old.state = .active ∧ chosen old = true) ∨
      row = write old ∧ old.state = .active ∧ chosen old = true := by
  obtain ⟨old, hold, rfl⟩ := List.mem_map.mp h
  refine ⟨old, hold, ?_⟩
  split_ifs with hchosen
  · exact .inr ⟨rfl, hchosen⟩
  · exact .inl ⟨rfl, hchosen⟩

theorem mem_updateActive_of_not (h : row ∈ s.rows)
    (hspared : ¬ (row.state = .active ∧ chosen row = true)) :
    row ∈ (s.updateActive chosen write hwrite).rows :=
  List.mem_map.mpr ⟨row, h, if_neg hspared⟩

theorem mem_closeActive_of_notMem (h : row ∈ s.rows) (hspared : row.id ∉ ids) :
    row ∈ (s.closeActive ids state reason now).rows :=
  List.mem_map.mpr ⟨row, h, if_neg fun hchosen => hspared (of_decide_eq_true hchosen.2)⟩

/-- A row active after a closing statement was not among the rows it closes. -/
theorem mem_of_closeActive (h : row ∈ (s.closeActive ids state reason now).rows)
    (hstate : state ≠ .active) (hactive : row.state = .active) : row ∈ s.rows ∧ row.id ∉ ids := by
  obtain ⟨old, hold, ⟨rfl, hspared⟩ | ⟨rfl, _⟩⟩ := mem_updateActive h
  · refine ⟨hold, ?_⟩
    intro hmem
    exact hspared ⟨hactive, decide_eq_true hmem⟩
  · exact absurd hactive hstate

/-- Every row is still there, with its account, date and device. -/
theorem exists_of_mem_closeActive (h : row ∈ (s.closeActive ids state reason now).rows) :
    ∃ old ∈ s.rows, row.id = old.id ∧ row.accountId = old.accountId ∧ row.dateId = old.dateId ∧
      row.deviceId = old.deviceId := by
  obtain ⟨old, hold, ⟨rfl, _⟩ | ⟨rfl, _⟩⟩ := mem_updateActive h
  · exact ⟨row, hold, rfl, rfl, rfl, rfl⟩
  · exact ⟨old, hold, rfl, rfl, rfl, rfl⟩

theorem OneActive.closing (h : s.OneActive) (hstate : ∀ row, (write row).state ≠ .active)
    (hdevice : ∀ row, (write row).deviceId = row.deviceId) :
    (s.updateActive chosen write hwrite).OneActive := by
  apply h.updateActive
  · intro row accountId dateId hon
    exact absurd (isOn_iff.mp hon).2.2 (hstate row)
  · exact hdevice

theorem OneActive.closeActive (h : s.OneActive) (hstate : state ≠ .active) :
    (s.closeActive ids state reason now).OneActive :=
  h.closing (fun _ => hstate) fun _ => rfl

theorem OneActive.reopen (h : s.OneActive) {id : Uuid} {reopening : Reopening} :
    (s.reopen id reopening).1.OneActive := by
  simp only [PlaybackSessions.reopen]
  apply h.updateActive
  · exact fun _ _ _ hon _ => hon
  · exact fun _ => rfl

theorem OneActive.renew (h : s.OneActive) {id : Uuid} {issue : Issue} :
    (s.renew id issue).1.OneActive := by
  simp only [PlaybackSessions.renew]
  apply h.updateActive
  · exact fun _ _ _ hon _ => hon
  · exact fun _ => rfl

/-- A lease reopened is the device's, and opened now. -/
theorem reopen_spec {id : Uuid} {reopening : Reopening} {session : PlaybackSession}
    (h : s.reopen id reopening = (t, some session)) :
    session ∈ t.rows ∧ session.id = id ∧ session.state = .active ∧
      session.leaseExpiresAt = reopening.leaseExpiresAt ∧
      (∃ old ∈ s.rows, old.id = id ∧ session.accountId = old.accountId ∧
        session.dateId = old.dateId ∧ session.deviceId = old.deviceId) ∧
      ∀ row : PlaybackSession, row.id ≠ id → (row ∈ t.rows ↔ row ∈ s.rows) := by
  unfold reopen at h
  simp only [Prod.mk.injEq] at h
  obtain ⟨rfl, hsession⟩ := h
  obtain ⟨old, hold, hreopened⟩ := Option.bind_eq_some_iff.mp hsession
  split_ifs at hreopened with hactive
  obtain ⟨hmem, hid⟩ := Table.find?_eq_some_iff.mp hold
  have hchosen : old.state = .active ∧ decide (old.id = id) = true :=
    ⟨hactive, decide_eq_true hid⟩
  rw [byId_updateActive, hold, Option.map_some, if_pos hchosen] at hreopened
  obtain rfl := Option.some.inj hreopened
  refine ⟨?_, hid, hactive, rfl, ⟨old, hmem, hid, rfl, rfl, rfl⟩, ?_⟩
  · exact List.mem_map.mpr ⟨old, hmem, if_pos hchosen⟩
  · intro row hne
    constructor
    · intro hrow
      obtain ⟨before, hbefore, ⟨rfl, _⟩ | ⟨rfl, _, hchosen⟩⟩ := mem_updateActive hrow
      · exact hbefore
      · exact absurd (of_decide_eq_true hchosen) hne
    · intro hrow
      exact mem_updateActive_of_not hrow fun hchosen => hne (of_decide_eq_true hchosen.2)

end Statements

/-! ## An opening's lease -/

section Leases

variable {s t : PlaybackSessions} {request : OpeningRequest} {reopening : Reopening}
  {session : PlaybackSession} {resumes : Bool}

/-- The lease an opening leaves its device, the other devices' rows untouched. -/
structure Leases (s t : PlaybackSessions) (request : OpeningRequest) (reopening : Reopening)
    (session : PlaybackSession) : Prop where
  mem : session ∈ t.rows
  isOn : session.isOn request.viewer.accountId request.dateId = true
  device : session.deviceId = request.viewer.deviceId
  lease : session.leaseExpiresAt = reopening.leaseExpiresAt
  others : ∀ row : PlaybackSession, ¬ request.IsFor row → (row ∈ t.rows ↔ row ∈ s.rows)

/-- The ids of the opener's device among the rows. -/
def OwnId (s : PlaybackSessions) (request : OpeningRequest) (id : Uuid) : Prop :=
  ∀ row ∈ s.rows, row.id = id → request.IsFor row

theorem resumption_spec {own : Option Uuid} (hown : ∀ id ∈ own, s.OwnId request id)
    (h : s.resumption own reopening = some (t, session, resumes)) :
    Leases s t request reopening session ∧ (s.OneActive → t.OneActive) := by
  obtain ⟨id, hid, hresumed⟩ := Option.bind_eq_some_iff.mp h
  split at hresumed
  · rename_i reopened found hreopen
    cases hresumed
    obtain ⟨hmem, hsession, hactive, hlease, ⟨old, hold, hsame, haccount, hdate, hdevice⟩, hothers⟩ :=
      reopen_spec hreopen
    obtain ⟨hopener, hon, hdevice'⟩ := hown id hid old hold hsame
    refine ⟨⟨hmem, ?_, hdevice.trans hdevice', hlease, ?_⟩, ?_⟩
    · exact isOn_iff.mpr ⟨haccount.trans hopener, hdate.trans hon, hactive⟩
    · intro row hdiffers
      by_cases hrowId : row.id = id
      · constructor
        · intro hrow
          have hkey := t.eq_of_mem hrow hmem (hrowId.trans hsession.symm)
          rw [hkey] at hdiffers
          exact absurd ⟨haccount.trans hopener, hdate.trans hon, hdevice.trans hdevice'⟩ hdiffers
        · intro hrow
          exact absurd (hown id hid row hrow hrowId) hdiffers
      · exact hothers row hrowId
    · intro hone
      have hreopened : t = (s.reopen id reopening).1 := by rw [hreopen]
      rw [hreopened]
      exact hone.reopen
  · cases hresumed

theorem insert_spec {opening : Opening} (h : s.insert opening = some (t, true)) :
    opening.row ∈ t.rows ∧ ∀ row, row ≠ opening.row → (row ∈ t.rows ↔ row ∈ s.rows) := by
  unfold PlaybackSessions.insert at h
  split_ifs at h
  · cases h
  · obtain ⟨inserted, hinserted, hpair⟩ := Option.map_eq_some_iff.mp h
    cases hpair
    refine ⟨(Table.mem_insert hinserted).mpr (.inr rfl), ?_⟩
    intro row hne
    rw [Table.mem_insert hinserted, or_iff_left hne]

theorem leaseFor_spec {resumedId : Option Uuid} {id : Uuid}
    (hown : ∀ id ∈ resumedId, s.OwnId request id)
    (h : s.leaseFor request resumedId reopening id = some (t, session, resumes)) :
    Leases s t request reopening session ∧ (s.OneActive → t.OneActive) := by
  simp only [leaseFor] at h
  split at h
  · exact resumption_spec hown h
  · split at h
    · cases h
    · rename_i inserted hinsert
      obtain ⟨found, hfound, hsame⟩ := Option.map_eq_some_iff.mp h
      cases hsame
      obtain ⟨hmem, hothers⟩ := insert_spec hinsert
      obtain ⟨hsession, hid⟩ := Table.find?_eq_some_iff.mp hfound
      have hrow := t.eq_of_mem hsession hmem hid
      rw [hrow]
      refine ⟨⟨hmem, ?_, rfl, rfl, ?_⟩, fun hone => hone.insert hinsert⟩
      · exact isOn_iff.mpr ⟨rfl, rfl, rfl⟩
      · intro row hdiffers
        apply hothers row
        rintro rfl
        exact hdiffers ⟨rfl, rfl, rfl⟩
    · rename_i kept hinsert
      have hkept : kept = s := by
        unfold PlaybackSessions.insert at hinsert
        split_ifs at hinsert
        · cases hinsert
          rfl
        · obtain ⟨_, _, hpair⟩ := Option.map_eq_some_iff.mp hinsert
          cases hpair
      rw [hkept] at h
      refine resumption_spec ?_ h
      intro own hmem row hrow hid
      obtain ⟨lease, hlease, rfl⟩ := Option.map_eq_some_iff.mp hmem
      obtain ⟨hactive, hon⟩ := mem_activeOnDate.mp (List.mem_of_find?_eq_some hlease)
      obtain rfl := s.eq_of_mem hrow hactive hid
      obtain ⟨haccount, hdate, _⟩ := isOn_iff.mp hon
      have hdevice := List.find?_some hlease
      exact ⟨haccount, hdate, of_decide_eq_true hdevice⟩

end Leases

/-! ## An opening -/

section Openings

variable [WatchRules] {s : PlaybackSessions} {request : OpeningRequest} {facts : DeskFacts}
  {id tokenId : Uuid} {signs : Bool} {now : Instant} {opened : Opened}

theorem mem_screensOn {accountId dateId : Uuid} {row : PlaybackSession} :
    row ∈ s.screensOn accountId dateId now ↔
      row ∈ s.rows ∧ row.isOn accountId dateId = true ∧
        holdsAScreen row.toScreenLease now = true := by
  unfold screensOn
  rw [List.mem_filter, mem_activeOnDate, and_assoc]

/-- An opening answers with what `leaseFor` leaves of the sessions cleared, or leaves everything. -/
theorem openPlayback_cases (s : PlaybackSessions) (request : OpeningRequest) (facts : DeskFacts)
    (id tokenId : Uuid) (signs : Bool) (now : Instant) :
    (∃ (issue : Reopening) (t : PlaybackSessions) (opened : Opened) (resumes : Bool),
      s.openPlayback request facts id tokenId signs now = .answer t opened ∧
      issueFor (s.openingVerdict request facts now) facts.cover tokenId now = .ok issue.toIssue ∧
      (s.cleared request facts now).leaseFor request
          ((resumableLeaseOf ((s.screensOn request.viewer.accountId request.dateId now).map
            PlaybackSession.toScreenLease) request.viewer.deviceId now).map ScreenLease.id) issue id =
        some (t, opened.session, resumes)) ∨
    ∃ refusal, s.openPlayback request facts id tokenId signs now = .refuse s refusal ∧
      ∀ allowed listed, refusal = .screens allowed listed →
        issueFor (s.openingVerdict request facts now) facts.cover tokenId now =
          .error .concurrentLimitReached := by
  simp only [openPlayback]
  cases hdate : facts.entitlement.date.isNone with
  | true => exact .inr ⟨.notFound, rfl, fun _ _ h => by cases h⟩
  | false =>
      simp only [Bool.false_eq_true, if_false]
      cases hissue : issueFor (s.openingVerdict request facts now) facts.cover tokenId now with
      | error reason =>
          refine .inr ⟨_, rfl, ?_⟩
          intro allowed listed hscreens
          unfold refusalFor at hscreens
          split_ifs at hscreens with hlimit
          · cases hlimit
            rfl
      | ok issue =>
          simp only
          split
          · exact .inr ⟨.failed, rfl, fun _ _ h => by cases h⟩
          · rename_i t session resumes hlease
            cases signs with
            | false => exact .inr ⟨.failed, rfl, fun _ _ h => by cases h⟩
            | true => exact .inl ⟨_, t, _, resumes, rfl, rfl, hlease⟩

theorem issueFor_lease {verdict : WatchVerdict} {cover : Option Instant} {issue : Issue}
    (h : issueFor verdict cover tokenId now = .ok issue) :
    issue.leaseExpiresAt = WatchRules.playbackLeaseExpiresAt now := by
  simp only [issueFor] at h
  split_ifs at h
  split at h <;> cases h <;> rfl

/-- An active row left by the clearing was there before, and is not taken over. -/
theorem mem_of_cleared {row : PlaybackSession} (h : row ∈ (s.cleared request facts now).rows)
    (hactive : row.state = .active) :
    row ∈ s.rows ∧ row.id ∉ (s.takenOver request facts now).map ScreenLease.id := by
  obtain ⟨hexpired, hspared⟩ := mem_of_closeActive h (by decide) hactive
  exact ⟨(mem_of_closeActive hexpired (by decide) hactive).1, hspared⟩

theorem exists_of_mem_cleared {row : PlaybackSession}
    (h : row ∈ (s.cleared request facts now).rows) :
    ∃ old ∈ s.rows, row.id = old.id ∧ row.accountId = old.accountId ∧ row.dateId = old.dateId ∧
      row.deviceId = old.deviceId := by
  obtain ⟨expired, hexpired, hid, haccount, hdate, hdevice⟩ := exists_of_mem_closeActive h
  obtain ⟨old, hold, hid', haccount', hdate', hdevice'⟩ := exists_of_mem_closeActive hexpired
  exact ⟨old, hold, hid.trans hid', haccount.trans haccount', hdate.trans hdate',
    hdevice.trans hdevice'⟩

/-- The lease an opening resumes is its device's. -/
theorem resumed_ownId {own : Uuid}
    (h : own ∈ (resumableLeaseOf ((s.screensOn request.viewer.accountId request.dateId now).map
      PlaybackSession.toScreenLease) request.viewer.deviceId now).map ScreenLease.id) :
    (s.cleared request facts now).OwnId request own := by
  intro row hrow hid
  obtain ⟨found, hfound, rfl⟩ := Option.map_eq_some_iff.mp h
  obtain ⟨lease, hlease, rfl⟩ := List.mem_map.mp (List.mem_of_find?_eq_some hfound)
  obtain ⟨hmem, hon, _⟩ := mem_screensOn.mp hlease
  obtain ⟨old, hold, hsame, haccount, hdate, hdevice⟩ := exists_of_mem_cleared hrow
  obtain rfl := s.eq_of_mem hold hmem (hsame.symm.trans hid)
  obtain ⟨hopener, hdate', _⟩ := isOn_iff.mp hon
  have howned := List.find?_some hfound
  simp only [Bool.and_eq_true, decide_eq_true_eq] at howned
  exact ⟨haccount.trans hopener, hdate.trans hdate', hdevice.trans howned.1⟩

/-- An opening answered leaves its device one lease and the others what it did not take over. -/
theorem openPlayback_spec
    (h : (s.openPlayback request facts id tokenId signs now).result = .ok opened) :
    ∃ issue : Reopening, issue.leaseExpiresAt = WatchRules.playbackLeaseExpiresAt now ∧
      Leases (s.cleared request facts now)
        (s.openPlayback request facts id tokenId signs now).state request issue opened.session := by
  rcases openPlayback_cases s request facts id tokenId signs now with
    ⟨issue, t, answered, resumes, hopen, hissue, hlease⟩ | ⟨refusal, hopen, _⟩
  · rw [hopen] at h ⊢
    cases h
    refine ⟨issue, issueFor_lease hissue, (leaseFor_spec ?_ hlease).1⟩
    exact fun own hown => resumed_ownId hown
  · rw [hopen] at h
    cases h

theorem openPlayback_oneActive (h : s.OneActive) :
    (s.openPlayback request facts id tokenId signs now).state.OneActive := by
  rcases openPlayback_cases s request facts id tokenId signs now with
    ⟨issue, t, answered, resumes, hopen, hissue, hlease⟩ | ⟨refusal, hopen, _⟩
  · rw [hopen]
    apply (leaseFor_spec (fun own hown => resumed_ownId hown) hlease).2
    exact (h.closeActive (by decide)).closeActive (by decide)
  · rw [hopen]
    exact h

/-! ## The allowance -/

/-- What an opening leaves of the others is under the allowance. -/
theorem others_left_lt (s : PlaybackSessions) (request : OpeningRequest) (now : Instant)
    (hallowed : 1 ≤ screensAllowedBy facts.entitlement) :
    ((s.otherScreens request now).length : ℤ) - (s.takenOver request facts now).length <
      screensAllowedBy facts.entitlement := by
  unfold takenOver
  rw [leasesTakenOverBy_length, List.length_map]
  omega

theorem screensOn_nodup (s : PlaybackSessions) (accountId dateId : Uuid) (now : Instant) :
    (s.screensOn accountId dateId now).Nodup :=
  ((s.activeOnDate_ids accountId dateId).of_map _).filter _

/-- A device holds one screen at most. -/
theorem OneActive.own_le_one (h : s.OneActive) (accountId dateId deviceId : Uuid) (now : Instant) :
    ((s.screensOn accountId dateId now).filter fun lease => lease.deviceId = deviceId).length ≤ 1 := by
  have hnone : (s.rows.filter fun row =>
      row.isOn accountId dateId && decide (row.deviceId = deviceId)).Pairwise fun _ _ => False := by
    rw [List.pairwise_filter]
    apply h.imp
    intro row other hdiffer hrow hother
    rw [Bool.and_eq_true, decide_eq_true_eq] at hrow hother
    exact hdiffer accountId dateId hrow.1 hother.1 (hrow.2.trans hother.2.symm)
  have hrows : (s.rows.filter fun row =>
      row.isOn accountId dateId && decide (row.deviceId = deviceId)).length ≤ 1 := by
    match hlist : s.rows.filter _, hnone with
    | [], _ => exact Nat.zero_le 1
    | [_], _ => exact le_rfl
    | first :: second :: _, hfirst =>
      exact ((List.pairwise_cons.mp hfirst).1 second List.mem_cons_self).elim
  refine le_trans (List.Nodup.length_le_of_subset ((screensOn_nodup ..).filter _) ?_) hrows
  intro row hrow
  obtain ⟨hscreen, hdevice⟩ := List.mem_filter.mp hrow
  obtain ⟨hmem, hon, _⟩ := mem_screensOn.mp hscreen
  exact List.mem_filter.mpr ⟨hmem, Bool.and_eq_true_iff.mpr ⟨hon, hdevice⟩⟩

/-- The others left by an opening, counted. -/
theorem length_othersLeft (s : PlaybackSessions) (request : OpeningRequest) (facts : DeskFacts)
    (now : Instant) :
    (((s.otherScreens request now).filter fun row =>
        row.id ∉ (s.takenOver request facts now).map ScreenLease.id).length : ℤ) =
      (s.otherScreens request now).length - (s.takenOver request facts now).length := by
  have hids : (((s.otherScreens request now).map PlaybackSession.toScreenLease).map
      ScreenLease.id).Nodup := by
    rw [List.map_map]
    apply List.Nodup.sublist _ (s.activeOnDate_ids request.viewer.accountId request.dateId)
    exact (List.filter_sublist.trans List.filter_sublist).map _
  have hleft := length_notTakenOver hids (screensAllowedBy facts.entitlement)
  rw [List.filter_map, List.length_map, List.length_map] at hleft
  exact hleft

/-- After an opening the leases that hold a screen are under the allowance. -/
theorem screens_le_allowed (hone : s.OneActive)
    (hallowed : 1 ≤ screensAllowedBy facts.entitlement)
    (h : (s.openPlayback request facts id tokenId signs now).result = .ok opened) :
    (((s.openPlayback request facts id tokenId signs now).state.screensOn
        request.viewer.accountId request.dateId now).length : ℤ) ≤
      screensAllowedBy facts.entitlement := by
  obtain ⟨issue, _, hleases⟩ := openPlayback_spec h
  set t := (s.openPlayback request facts id tokenId signs now).state with ht
  set screens := t.screensOn request.viewer.accountId request.dateId now with hscreens
  have hone' : t.OneActive := openPlayback_oneActive hone
  have hown := hone'.own_le_one request.viewer.accountId request.dateId request.viewer.deviceId now
  rw [← hscreens] at hown
  have hothers : (screens.filter fun lease => lease.deviceId ≠ request.viewer.deviceId).length ≤
      ((s.otherScreens request now).filter fun row =>
        row.id ∉ (s.takenOver request facts now).map ScreenLease.id).length := by
    apply List.Nodup.length_le_of_subset ((screensOn_nodup ..).filter _)
    intro row hrow
    obtain ⟨hscreen, hdevice⟩ := List.mem_filter.mp hrow
    obtain ⟨hmem, hon, hholds⟩ := mem_screensOn.mp hscreen
    have hcleared := (hleases.others row fun hfor => of_decide_eq_true hdevice hfor.2.2).mp hmem
    obtain ⟨hbefore, hspared⟩ := mem_of_cleared hcleared (isOn_iff.mp hon).2.2
    apply List.mem_filter.mpr
    refine ⟨List.mem_filter.mpr ⟨mem_screensOn.mpr ⟨hbefore, hon, hholds⟩, hdevice⟩, ?_⟩
    exact decide_eq_true hspared
  have hsplit := List.length_eq_length_filter_add (l := screens)
    fun lease => decide (lease.deviceId = request.viewer.deviceId)
  have hcount := length_othersLeft s request facts now
  have hfits := others_left_lt s request now hallowed
  have hne : (screens.filter fun lease => !decide (lease.deviceId = request.viewer.deviceId)) =
      screens.filter fun lease => lease.deviceId ≠ request.viewer.deviceId :=
    List.filter_congr fun lease _ => (decide_not ..).symm
  rw [hne] at hsplit
  omega

/-- The opener holds one of them. -/
theorem opened_mem_screensOn [LawfulWatchRules]
    (h : (s.openPlayback request facts id tokenId signs now).result = .ok opened) :
    opened.session ∈ (s.openPlayback request facts id tokenId signs now).state.screensOn
        request.viewer.accountId request.dateId now ∧
      opened.session.deviceId = request.viewer.deviceId := by
  obtain ⟨issue, hlease, hleases⟩ := openPlayback_spec h
  refine ⟨mem_screensOn.mpr ⟨hleases.mem, hleases.isOn, ?_⟩, hleases.device⟩
  apply (LawfulRunRules.isAfter_iff _ _).mpr
  rw [hleases.lease, hlease]
  exact LawfulWatchRules.lease_outlasts now

/-! ## The verdict and the screens -/

/-- Refused for the screens, the allowance is reached. -/
theorem issueFor_limit [LawfulWatchRules] {entitlement : EntitlementFacts}
    {runState : Option RunState} {screens : ScreenCount} {previewSecondsLeft : ℤ}
    {viewerCountry : String} {cover : Option Instant}
    (h : issueFor (verdictOf entitlement runState screens previewSecondsLeft viewerCountry now) cover
      tokenId now = .error .concurrentLimitReached) : screens.allowed ≤ screens.opened := by
  have hreason : (verdictOf entitlement runState screens previewSecondsLeft viewerCountry
      now).reason = some .concurrentLimitReached := by
    simp only [issueFor] at h
    split_ifs at h
    · cases hreason : (verdictOf entitlement runState screens previewSecondsLeft viewerCountry
          now).reason with
      | none =>
          rw [hreason] at h
          cases h
      | some reason =>
          rw [hreason] at h
          cases h
          rfl
    · split at h <;> cases h
  unfold verdictOf at hreason
  split at hreason
  · cases hreason
  · split at hreason
    · exact LawfulWatchRules.limit_reached _ hreason
    · cases hreason
    · cases hreason

/-- At the allowance nothing is issued. -/
theorem issueFor_refused [LawfulWatchRules] (entitlement : EntitlementFacts)
    (runState : Option RunState) {opened allowed : ℤ} (previewSecondsLeft : ℤ)
    (viewerCountry : String) (cover : Option Instant) (tokenId : Uuid) (now : Instant)
    (h : allowed ≤ opened) :
    ∃ reason, issueFor (verdictOf entitlement runState ⟨opened, allowed⟩ previewSecondsLeft
      viewerCountry now) cover tokenId now = .error reason := by
  have hallowed : (verdictOf entitlement runState ⟨opened, allowed⟩ previewSecondsLeft viewerCountry
      now).allowed = false := by
    unfold verdictOf
    split
    · rfl
    · split
      · exact LawfulWatchRules.limit_refused _ h
      · rfl
      · rfl
  simp only [issueFor, hallowed, Bool.not_false, Bool.true_or, if_true]
  exact ⟨_, rfl⟩

/-- An opening is never refused for the number of screens. -/
theorem openPlayback_not_limited [LawfulWatchRules]
    (hallowed : 1 ≤ screensAllowedBy facts.entitlement) (allowed : ℤ) (listed : List ActiveScreen) :
    (s.openPlayback request facts id tokenId signs now).result ≠ .error (.screens allowed listed) := by
  intro h
  rcases openPlayback_cases s request facts id tokenId signs now with
    ⟨_, _, _, _, hopen, _⟩ | ⟨refusal, hopen, hlimit⟩
  · rw [hopen] at h
    cases h
  · rw [hopen] at h
    cases h
    have hreached := issueFor_limit (hlimit allowed listed rfl)
    exact absurd (others_left_lt s request now hallowed) (not_lt.mpr hreached)

end Openings

/-! ## One active lease a device, whatever the transactions -/

section Runs

variable [WatchRules] {s : PlaybackSessions}

/-- A session is asked to be renewed by the viewer that holds it. -/
def Asked (s : PlaybackSessions) (viewer : Viewer) (sessionId : Uuid) : Prop :=
  ∃ found ∈ s.byId sessionId, found.accountId = viewer.accountId ∧
    heldByCaller viewer found = true

omit [WatchRules] in
theorem find?_activeOnDate {found : PlaybackSession} {sessionId : Uuid}
    (hfound : s.byId sessionId = some found) {accountId : Uuid} (haccount : found.accountId = accountId) :
    ((s.activeOnDate accountId found.dateId).find? fun lease => lease.id = sessionId) =
      if found.state = .active then some found else none := by
  obtain ⟨hmem, hid⟩ := Table.find?_eq_some_iff.mp hfound
  split_ifs with hactive
  · apply (find?_eq_some_iff_of_nodup (s.activeOnDate_ids accountId found.dateId)).mpr
    exact ⟨mem_activeOnDate.mpr ⟨hmem, isOn_iff.mpr ⟨haccount, rfl, hactive⟩⟩, hid⟩
  · rw [List.find?_eq_none]
    intro lease hlease hsame
    obtain ⟨hother, hon⟩ := mem_activeOnDate.mp hlease
    obtain rfl := s.eq_of_mem hother hmem ((of_decide_eq_true hsame).trans hid.symm)
    exact hactive (isOn_iff.mp hon).2.2

/-- What a renewal does: nothing of a session not the caller's or not active; a lapsed one expires;
one refused is revoked; one granted is renewed, unless the provider does not sign. -/
theorem renewPlayback_cases (s : PlaybackSessions) (viewer : Viewer) (sessionId : Uuid)
    (viewerCountry : String) (facts : DeskFacts) (tokenId : Uuid) (signs : Bool) (now : Instant) :
    let t := (s.renewPlayback viewer sessionId viewerCountry facts tokenId signs now).state
    (t = s ∧ ¬ s.Asked viewer sessionId) ∨
      ∃ found, s.byId sessionId = some found ∧ s.Asked viewer sessionId ∧
        ((found.state ≠ .active ∧ t = s) ∨
          (found.state = .active ∧ holdsAScreen found.toScreenLease now = false ∧
            t = s.expire [found.id] now) ∨
          (found.state = .active ∧ holdsAScreen found.toScreenLease now = true ∧
            ∃ reason, issueFor (s.renewalVerdict found viewerCountry facts now) facts.cover tokenId
                now = .error reason ∧ t = s.revoke [found.id] (.denied reason) now) ∨
          (found.state = .active ∧ holdsAScreen found.toScreenLease now = true ∧
            ∃ issue, issueFor (s.renewalVerdict found viewerCountry facts now) facts.cover tokenId
                now = .ok issue ∧ (t = s ∨ t = (s.renew found.id issue).1))) := by
  simp only [renewPlayback]
  cases hfound : s.byId sessionId with
  | none => exact .inl ⟨rfl, fun ⟨found, hmem, _⟩ => by rw [hfound] at hmem; cases hmem⟩
  | some found =>
      simp only
      have hasked : s.Asked viewer sessionId →
          found.accountId = viewer.accountId ∧ heldByCaller viewer found = true := by
        rintro ⟨other, hmem, hheld⟩
        rw [hfound] at hmem
        cases hmem
        exact hheld
      by_cases haccount : found.accountId = viewer.accountId
      · cases hheld : heldByCaller viewer found with
        | false =>
            simp only [haccount, ne_eq, not_true_eq_false, if_false, Bool.not_false, if_true]
            exact .inl ⟨rfl, fun h => by simpa [hheld] using (hasked h).2⟩
        | true =>
            refine .inr ⟨found, rfl, ⟨found, hfound, haccount, hheld⟩, ?_⟩
            simp only [haccount, ne_eq, not_true_eq_false, if_false, Bool.not_true,
              Bool.false_eq_true, find?_activeOnDate hfound haccount]
            by_cases hactive : found.state = .active
            · simp only [if_pos hactive]
              cases hholds : holdsAScreen found.toScreenLease now with
              | false => exact .inr (.inl ⟨hactive, rfl, rfl⟩)
              | true =>
                  simp only [Bool.not_true, Bool.false_eq_true, if_false]
                  cases hissue : issueFor (s.renewalVerdict found viewerCountry facts now)
                      facts.cover tokenId now with
                  | error reason => exact .inr (.inr (.inl ⟨hactive, trivial, reason, rfl, rfl⟩))
                  | ok issue =>
                      refine .inr (.inr (.inr ⟨hactive, trivial, issue, rfl, ?_⟩))
                      simp only
                      split
                      · rename_i renewed session hrenew
                        rw [hrenew]
                        cases signs with
                        | false => exact .inl rfl
                        | true => exact .inr rfl
                      · exact .inl rfl
            · simp only [if_neg hactive]
              refine .inl ⟨hactive, ?_⟩
              cases found.state <;> cases found.revokeReason <;> rfl
      · simp only [ne_eq, haccount, not_false_eq_true, if_true]
        exact .inl ⟨rfl, fun h => haccount (hasked h).1⟩

theorem renewPlayback_oneActive (h : s.OneActive) (viewer : Viewer) (sessionId : Uuid)
    (viewerCountry : String) (facts : DeskFacts) (tokenId : Uuid) (signs : Bool) (now : Instant) :
    (s.renewPlayback viewer sessionId viewerCountry facts tokenId signs now).state.OneActive := by
  rcases renewPlayback_cases s viewer sessionId viewerCountry facts tokenId signs now with
    ⟨hsame, _⟩ | ⟨found, _, _, ⟨_, hsame⟩ | ⟨_, _, hexpired⟩ | ⟨_, _, reason, _, hrevoked⟩ |
      ⟨_, _, issue, _, hsame | hrenewed⟩⟩
  · rw [hsame]
    exact h
  · rw [hsame]
    exact h
  · rw [hexpired]
    exact h.closeActive (by decide)
  · rw [hrevoked]
    exact h.closeActive (by decide)
  · rw [hsame]
    exact h
  · rw [hrenewed]
    exact h.renew

theorem step_oneActive (h : s.OneActive) (a : Instant × DeskStep) : (s.step a).OneActive := by
  obtain ⟨now, a⟩ := a
  cases a with
  | openPlayback request facts id tokenId signs => exact openPlayback_oneActive h
  | renewPlayback viewer sessionId viewerCountry facts tokenId signs =>
      exact renewPlayback_oneActive h viewer sessionId viewerCountry facts tokenId signs now
  | releasePlayback accountId sessionId =>
      simp only [step, releasePlayback]
      split
      · exact h
      · split_ifs
        · exact h
        · exact h.closeActive (by decide)
  | revokeDevice target =>
      simp only [step, revokeDevice]
      exact h.closing (fun _ => PlaybackSessionState.noConfusion) fun _ => rfl
  | sweep picked =>
      simp only [step, expireLapsed]
      exact h.closing (fun _ => PlaybackSessionState.noConfusion) fun _ => rfl

theorem run_oneActive (steps : List (Instant × DeskStep)) (h : s.OneActive) :
    (s.run steps).OneActive := by
  induction steps generalizing s with
  | nil => exact h
  | cons a steps ih => exact ih (step_oneActive h a)

end Runs

end PlaybackSessions

end Arthome.Streaming
