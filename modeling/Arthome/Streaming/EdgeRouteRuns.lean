import Arthome.Library.Streaks
import Arthome.Streaming.EdgeRoutes
import Mathlib

/-!
# The audio workers of an edge path

Every writing of an edge path for an Opus feed starts a worker. Its edge path is seen offline
by a reconciliation that finds the feed online and routable and has nothing to write. A worker
whose path is seen offline without a break for the failure delay is reported until one report
reaches the listener, and no other worker is: as long as no reconciliation writes the path over
a failure already reported, and none that cannot look at the edge path comes while the path is
counted offline.
-/

namespace Arthome.Streaming

open Arthome.Core Library

/-- A reconciliation and what it did. -/
structure EdgeEntry where
  read : Reconciliation
  did : Reconciled
  deriving Repr, DecidableEq

/-- H.264 with AAC or with Opus. -/
def OriginPath.routable (feed : OriginPath) : Bool :=
  (edgePathConfigurationOf feed (.create "" "") "").isSome

namespace EdgeEntry

/-- The edge path was written. -/
def writes (entry : EdgeEntry) : Bool :=
  match entry.did with
  | .written _ => true
  | _ => false

/-- Writing the path starts the worker it runs. -/
def startsWorker (entry : EdgeEntry) : Bool :=
  match entry.did with
  | .written configuration => configuration.runOnInit.isSome
  | _ => false

/-- The listener was told of a failure, whether or not the report reached it. -/
def reports (entry : EdgeEntry) : Bool :=
  entry.did = .failureReported || entry.did = .reportLost

/-- The report reached the listener. -/
def reported (entry : EdgeEntry) : Bool := entry.did = .failureReported

/-- Nothing to write, neither in vain. -/
def looks (entry : EdgeEntry) : Bool := !entry.writes && decide (entry.did ≠ .replaceFailed)

/-- The instant the edge path was seen offline at, the feed online and routable. -/
def seesOffline (entry : EdgeEntry) : Option Instant :=
  if (entry.read.onlineFeed.any OriginPath.routable && decide (entry.read.edgePath = some false) &&
    entry.looks) = true then some entry.read.nowMs
  else none

end EdgeEntry

/-- The entries end with the edge path seen offline by each, for the failure delay. -/
def OfflineTooLong (entries : List EdgeEntry) (nowMs : Instant) : Prop :=
  ∃ since, IsLastStreak EdgeEntry.seesOffline entries since ∧
    audioWorkerFailedAfterMs ≤ nowMs - since

theorem offlineTooLong_iff_streakStart {entries : List EdgeEntry} {nowMs : Instant} :
    OfflineTooLong entries nowMs ↔ (streakStart EdgeEntry.seesOffline entries).any
      (fun since => audioWorkerFailedAfterMs ≤ nowMs - since) = true := by
  unfold OfflineTooLong
  simp only [← streakStart_eq_some_iff, Option.any_eq_true, decide_eq_true_eq]

instance (entries : List EdgeEntry) (nowMs : Instant) : Decidable (OfflineTooLong entries nowMs) :=
  decidable_of_iff _ offlineTooLong_iff_streakStart.symm

/-- Each failed worker is reported once, and no other one is. -/
structure WorkersReported (entries : List EdgeEntry) : Prop where
  /-- As long as no report of a worker reached the listener, one is made exactly when the worker's
  path has been offline for too long. -/
  exactly : ∀ before started during entry after,
    entries = before ++ started :: (during ++ entry :: after) → started.startsWorker = true →
      (∀ e ∈ during, e.writes = false) →
        (entry.reports = true ↔ OfflineTooLong (during ++ [entry]) entry.read.nowMs ∧
          ∀ e ∈ during, e.reported = false)
  once : ∀ before started during after, entries = before ++ started :: (during ++ after) →
    started.startsWorker = true → (∀ e ∈ during, e.writes = false) →
      during.countP EdgeEntry.reported ≤ 1
  /-- Only a worker started is reported. -/
  started : ∀ before entry after, entries = before ++ entry :: after → entry.reports = true →
    ∃ earlier started during, before = earlier ++ started :: during ∧
      started.startsWorker = true ∧ ∀ e ∈ during, e.writes = false

/-- A route and the reconciliations that led to it. -/
structure EdgeHistory where
  route : EdgeRoute
  entries : List EdgeEntry

/-- The date is signed again, or the route reconciled. -/
inductive EdgeStep where
  | remember (streamPath : String)
  | reconcile (reconciliation : Reconciliation)
  deriving Repr, DecidableEq

def EdgeHistory.create (dateId streamPath : String) : EdgeHistory :=
  ⟨.create dateId streamPath, []⟩

def EdgeHistory.after (originRtspUrl : String) (h : EdgeHistory) : EdgeStep → EdgeHistory
  | .remember streamPath => ⟨h.route.remember streamPath, h.entries⟩
  | .reconcile r =>
    ⟨(reconcileRoute originRtspUrl h.route r).1,
      h.entries ++ [⟨r, (reconcileRoute originRtspUrl h.route r).2⟩]⟩

/-- The path is not written over a failure reported since the feed came back, and no
reconciliation that finds the feed unroutable, or fails to write, comes while the path is counted
offline. -/
def EdgeRoute.undisturbed (originRtspUrl : String) (route : EdgeRoute) (r : Reconciliation) :
    Bool :=
  match r.onlineFeed with
  | none => true
  | some feed =>
    let back := route.feedOnline r.nowMs
    match edgePathConfigurationOf feed back originRtspUrl with
    | none => route.edgeOfflineSinceMs.isNone
    | some wanted =>
      if some wanted ≠ route.applied ∨ r.edgePath = none then
        if r.replaceFails then route.edgeOfflineSinceMs.isNone else !back.failureReported
      else true

def EdgeHistory.admits (originRtspUrl : String) (h : EdgeHistory) : EdgeStep → Prop
  | .remember _ => True
  | .reconcile r => h.route.undisturbed originRtspUrl r = true

instance (originRtspUrl : String) (h : EdgeHistory) :
    ∀ step, Decidable (h.admits originRtspUrl step)
  | .remember _ => inferInstanceAs (Decidable True)
  | .reconcile r =>
    inferInstanceAs (Decidable (h.route.undisturbed originRtspUrl r = true))

/-! ## What the route knows of its worker -/

/-- The route's flags against the entries since its worker was started. -/
structure Follows (route : EdgeRoute) (command : AudioWorkerCommand) (during : List EdgeEntry) :
    Prop where
  generation : command.generation ≤ route.generation
  offline : route.edgeOfflineSinceMs = streakStart EdgeEntry.seesOffline during
  reported : route.failureReported = true → ∃ e ∈ during, e.reported = true
  /-- A failure reported is remembered until the feed comes back, which wants another worker. -/
  remembered : (∃ e ∈ during, e.reported = true) →
    route.failureReported = true ∨ command.generation < route.generation

/-- The route's flags against all entries. -/
structure Standing (h : EdgeHistory) : Prop where
  applied : ∀ configuration, h.route.applied = some configuration →
    ∃ before writing during, h.entries = before ++ writing :: during ∧
      writing.did = .written configuration ∧ ∀ e ∈ during, e.writes = false
  last : ∀ before writing during configuration, h.entries = before ++ writing :: during →
    writing.did = .written configuration → (∀ e ∈ during, e.writes = false) →
      h.route.applied = some configuration ∧
        ∀ command, configuration.runOnInit = some command → Follows h.route command during

/-- Where an entry of a list with one more may stand. -/
theorem concat_eq_append_cons_iff {α : Type} {entries before during : List α} {entry e : α} :
    entries ++ [entry] = before ++ e :: during ↔
      (during = [] ∧ entries = before ∧ entry = e) ∨
        ∃ during', during = during' ++ [entry] ∧ entries = before ++ e :: during' := by
  constructor
  · intro h
    induction during using List.reverseRecOn with
    | nil =>
        obtain ⟨hsame, hlast⟩ := List.append_inj' h rfl
        exact .inl ⟨rfl, hsame, List.singleton_inj.mp hlast⟩
    | append_singleton during last _ =>
        rw [← List.cons_append, ← List.append_assoc] at h
        obtain ⟨hsame, hlast⟩ := List.append_inj' h rfl
        exact .inr ⟨during, by rw [List.singleton_inj.mp hlast], hsame⟩
  · rintro (⟨rfl, rfl, rfl⟩ | ⟨during', rfl, rfl⟩)
    · rfl
    · simp

section Runs

variable {originRtspUrl : String} {route route' : EdgeRoute} {r : Reconciliation}
  {did : Reconciled} {command : AudioWorkerCommand} {during : List EdgeEntry}

theorem isSome_edgePathConfigurationOf (originRtspUrl : String) (route : EdgeRoute)
    (feed : OriginPath) :
    (edgePathConfigurationOf feed route originRtspUrl).isSome = feed.routable := by
  unfold OriginPath.routable edgePathConfigurationOf
  dsimp only
  by_cases hcodecs : (feed.tracks2.map fun track => track.codec).length ≠ 2 ∨
      "H264" ∉ feed.tracks2.map fun track => track.codec
  · rw [if_pos hcodecs, if_pos hcodecs]
  · rw [if_neg hcodecs, if_neg hcodecs]
    cases feed.tracks2.find? fun track => decide (track.codec = "MPEG-4 Audio") with
    | none =>
        dsimp only
        split_ifs <;> rfl
    | some aac => rw [Option.isSome_map, Option.isSome_map]

theorem runOnInit_generation {feed : OriginPath} {wanted : EdgePathConfiguration}
    (h : edgePathConfigurationOf feed route originRtspUrl = some wanted)
    (hcommand : wanted.runOnInit = some command) : command.generation = route.generation := by
  unfold edgePathConfigurationOf at h
  dsimp only at h
  by_cases hcodecs : (feed.tracks2.map fun track => track.codec).length ≠ 2 ∨
      "H264" ∉ feed.tracks2.map fun track => track.codec
  · rw [if_pos hcodecs] at h
    cases h
  · rw [if_neg hcodecs] at h
    cases haac : feed.tracks2.find? fun track => decide (track.codec = "MPEG-4 Audio") with
    | none =>
        rw [haac] at h
        dsimp only at h
        split_ifs at h
        cases h
        cases hcommand
        rfl
    | some aac =>
        rw [haac] at h
        obtain ⟨audio, -, rfl⟩ := Option.map_eq_some_iff.mp h
        cases hcommand

/-- The feed coming back after a failure was reported wants a worker of another generation. -/
theorem Follows.feedOnline (h : Follows route command during) (happlied : route.applied.isSome)
    (nowMs : Instant) : Follows (route.feedOnline nowMs) command during := by
  have hoffline := h.offline
  rw [← edgeOfflineSinceMs_feedOnline nowMs] at hoffline
  unfold EdgeRoute.feedOnline at hoffline ⊢
  cases hsince : route.feedOfflineSinceMs with
  | none => exact h
  | some since =>
      have hgeneration := h.generation
      rw [hsince] at hoffline
      refine ⟨?_, hoffline, fun hfalse => (by cases hfalse), ?_⟩
      · dsimp only
        split_ifs
        · omega
        · exact hgeneration
      · intro hreported
        right
        dsimp only
        rcases h.remembered hreported with hflag | hlater
        · rw [happlied, hflag]
          simp only [Bool.true_or, Bool.and_self, if_true]
          omega
        · split_ifs
          · omega
          · exact hlater

/-- A failure reported, or an entry that reports none, leaves what the entries reported. -/
theorem exists_reported_concat (entry : EdgeEntry) :
    (∃ e ∈ during ++ [entry], e.reported = true) ↔
      (∃ e ∈ during, e.reported = true) ∨ entry.reported = true := by
  simp only [List.mem_append, List.mem_singleton, or_and_right, exists_or, exists_eq_left]

/-- An entry that sees no offline path, and reports nothing, in a route that counts none. -/
theorem Follows.unseen {entry : EdgeEntry} (h : Follows route command during)
    (hoffline : route.edgeOfflineSinceMs = none) (hentry : entry.seesOffline = none)
    (hreported : entry.reported = false) : Follows route command (during ++ [entry]) := by
  refine ⟨h.generation, ?_, ?_, ?_⟩
  · rw [streakStart_concat, hoffline]
    simp [streakAfter, hentry]
  · intro hflag
    exact (exists_reported_concat entry).mpr (.inl (h.reported hflag))
  · intro hsome
    rcases (exists_reported_concat entry).mp hsome with hbefore | hnow
    · exact h.remembered hbefore
    · rw [hreported] at hnow
      cases hnow

/-- An entry that sees the path offline. -/
theorem streakStart_offline {entry : EdgeEntry} (h : Follows route command during)
    (hentry : entry.seesOffline = some r.nowMs) :
    streakStart EdgeEntry.seesOffline (during ++ [entry]) = some (route.offlineSince r.nowMs) := by
  rw [streakStart_concat, ← h.offline]
  simp [streakAfter, hentry, EdgeRoute.offlineSince]

theorem seesOffline_offline {feed : OriginPath} {wanted : EdgePathConfiguration}
    (hfeed : r.onlineFeed = some feed)
    (hwanted : edgePathConfigurationOf feed route originRtspUrl = some wanted)
    (hedge : r.edgePath = some false) (hlooks : EdgeEntry.looks ⟨r, did⟩ = true) :
    EdgeEntry.seesOffline ⟨r, did⟩ = some r.nowMs := by
  have hroutable : feed.routable = true := by
    rw [← isSome_edgePathConfigurationOf originRtspUrl route, hwanted]
    rfl
  unfold EdgeEntry.seesOffline
  rw [hfeed, hedge, hlooks, Option.any_some, hroutable]
  rfl

/-- What a reconciliation sees of the edge path is nothing, unless it watches the worker. -/
theorem seesOffline_unroutable {feed : OriginPath} (hfeed : r.onlineFeed = some feed)
    (hwanted : edgePathConfigurationOf feed route originRtspUrl = none) :
    EdgeEntry.seesOffline ⟨r, did⟩ = none := by
  have hunroutable : feed.routable = false := by
    rw [← isSome_edgePathConfigurationOf originRtspUrl route, hwanted]
    rfl
  simp [EdgeEntry.seesOffline, hfeed, hunroutable]

theorem seesOffline_online (hedge : r.edgePath = some true) :
    EdgeEntry.seesOffline ⟨r, did⟩ = none := by
  simp [EdgeEntry.seesOffline, hedge]

theorem seesOffline_replaceFailed : EdgeEntry.seesOffline ⟨r, .replaceFailed⟩ = none := by
  simp [EdgeEntry.seesOffline, EdgeEntry.looks]

theorem seesOffline_feedLost (hfeed : r.onlineFeed = none) :
    EdgeEntry.seesOffline ⟨r, did⟩ = none := by
  simp [EdgeEntry.seesOffline, hfeed]

/-- No failure reported while the worker's configuration is still the one wanted. -/
theorem Follows.unreported {feed : OriginPath} {wanted : EdgePathConfiguration}
    (h : Follows route command during)
    (hwanted : edgePathConfigurationOf feed route originRtspUrl = some wanted)
    (hcommand : wanted.runOnInit = some command) (hnew : route.failureReported = false) :
    ∀ e ∈ during, e.reported = false := by
  intro e he
  rw [← Bool.not_eq_true]
  intro hreported
  rcases h.remembered ⟨e, he, hreported⟩ with hflag | hlater
  · rw [hnew] at hflag
    cases hflag
  · rw [runOnInit_generation hwanted hcommand] at hlater
    exact absurd hlater (lt_irrefl _)

/-- A reconciliation that writes nothing leaves the route in line with the worker's entries. -/
theorem Follows.reconciled (h : Follows route command during) {applied : EdgePathConfiguration}
    (happlied : route.applied = some applied) (hcommand : applied.runOnInit = some command)
    (hundisturbed : route.undisturbed originRtspUrl r = true)
    (hmove : Reconciles originRtspUrl route r route' did)
    (hkept : EdgeEntry.writes ⟨r, did⟩ = false) :
    Follows route' command (during ++ [⟨r, did⟩]) := by
  have hback := h.feedOnline (by simp [happlied]) r.nowMs
  unfold EdgeRoute.undisturbed at hundisturbed
  cases hmove with
  | feedLost hfeed =>
      have hlost : Follows (route.feedOffline r.nowMs) command (during ++ [⟨r, .feedLost⟩]) := by
        refine ⟨h.generation, ?_, ?_, ?_⟩
        · rw [streakStart_concat]
          simp [streakAfter, seesOffline_feedLost hfeed, EdgeRoute.feedOffline]
        · intro hflag
          exact (exists_reported_concat _).mpr (.inl (h.reported hflag))
        · intro hsome
          rcases (exists_reported_concat _).mp hsome with hbefore | hnow
          · exact h.remembered hbefore
          · cases hnow
      exact hlost
  | unroutable feed hfeed hwanted =>
      rw [hfeed] at hundisturbed
      dsimp only at hundisturbed
      rw [hwanted] at hundisturbed
      have hnone : route.edgeOfflineSinceMs = none := by simpa using hundisturbed
      rw [← edgeOfflineSinceMs_feedOnline r.nowMs] at hnone
      exact hback.unseen hnone (seesOffline_unroutable hfeed hwanted) rfl
  | replaceFailed feed wanted hfeed hwanted hwrite hfails =>
      rw [hfeed] at hundisturbed
      dsimp only at hundisturbed
      rw [hwanted] at hundisturbed
      dsimp only at hundisturbed
      rw [if_pos hwrite, if_pos hfails] at hundisturbed
      have hnone : route.edgeOfflineSinceMs = none := by simpa using hundisturbed
      rw [← edgeOfflineSinceMs_feedOnline r.nowMs] at hnone
      exact hback.unseen hnone seesOffline_replaceFailed rfl
  | written feed wanted hfeed hwanted hwrite hfails => cases hkept
  | pulled feed wanted hfeed hwanted hsame hnone =>
      rw [happlied, Option.some.injEq] at hsame
      rw [← hsame, hcommand] at hnone
      cases hnone
  | online feed wanted hfeed hwanted hsame hedge =>
      refine ⟨hback.generation, ?_, ?_, ?_⟩
      · rw [streakStart_concat]
        simp [streakAfter, seesOffline_online hedge]
      · intro hflag
        exact (exists_reported_concat _).mpr (.inl (hback.reported hflag))
      · intro hsome
        rcases (exists_reported_concat _).mp hsome with hbefore | hnow
        · exact hback.remembered hbefore
        · cases hnow
  | offline feed wanted hfeed hwanted hsame hedge hwaiting =>
      refine ⟨hback.generation, ?_, ?_, ?_⟩
      · exact (streakStart_offline h (seesOffline_offline hfeed hwanted hedge rfl)).symm
      · intro hflag
        exact (exists_reported_concat _).mpr (.inl (hback.reported hflag))
      · intro hsome
        rcases (exists_reported_concat _).mp hsome with hbefore | hnow
        · exact hback.remembered hbefore
        · cases hnow
  | failed feed wanted hfeed hwanted hsame hworker hedge hnew hlong =>
      rw [happlied, Option.some.injEq] at hsame
      have hnone := hback.unreported hwanted (hsame ▸ hcommand) hnew
      have hlooks : EdgeEntry.looks ⟨r, if r.listenerFails then .reportLost else .failureReported⟩ =
          true := by
        cases r.listenerFails <;> rfl
      refine ⟨hback.generation, ?_, ?_, ?_⟩
      · exact (streakStart_offline h (seesOffline_offline hfeed hwanted hedge hlooks)).symm
      · intro hflag
        refine (exists_reported_concat _).mpr (.inr ?_)
        have hreached : r.listenerFails = false := by simpa using hflag
        rw [hreached]
        rfl
      · intro hsome
        left
        rcases (exists_reported_concat _).mp hsome with ⟨e, he, hreported⟩ | hnow
        · rw [hnone e he] at hreported
          cases hreported
        · cases hfails : r.listenerFails with
          | true =>
              rw [hfails] at hnow
              cases hnow
          | false => rfl

theorem not_offlineTooLong {entry : EdgeEntry} (hentry : entry.seesOffline = none)
    (nowMs : Instant) : ¬ OfflineTooLong (during ++ [entry]) nowMs := by
  rintro ⟨since, hstreak, -⟩
  rw [isLastStreak_concat, hentry] at hstreak
  simp at hstreak

theorem offlineTooLong_iff {entry : EdgeEntry} (h : Follows route command during)
    (hentry : entry.seesOffline = some r.nowMs) :
    OfflineTooLong (during ++ [entry]) r.nowMs ↔
      audioWorkerFailedAfterMs ≤ r.nowMs - route.offlineSince r.nowMs := by
  have hstart : streakStart EdgeEntry.seesOffline (during ++ [entry]) =
      some (route.offlineSince r.nowMs) := streakStart_offline h hentry
  unfold OfflineTooLong
  constructor
  · rintro ⟨since, hstreak, hlong⟩
    rw [← streakStart_eq_some_iff, hstart, Option.some.injEq] at hstreak
    rwa [hstreak]
  · intro hlong
    exact ⟨_, streakStart_eq_some_iff.mp hstart, hlong⟩

/-- A report is made exactly when the worker's path has been offline for too long, none having
reached the listener. -/
theorem Follows.reports_iff (h : Follows route command during) {applied : EdgePathConfiguration}
    (happlied : route.applied = some applied) (hcommand : applied.runOnInit = some command)
    (hmove : Reconciles originRtspUrl route r route' did) :
    EdgeEntry.reports ⟨r, did⟩ = true ↔
      OfflineTooLong (during ++ [⟨r, did⟩]) r.nowMs ∧ ∀ e ∈ during, e.reported = false := by
  have hback := h.feedOnline (by simp [happlied]) r.nowMs
  cases hmove with
  | feedLost hfeed =>
      exact iff_of_false (by simp [EdgeEntry.reports]) fun hboth =>
        not_offlineTooLong (seesOffline_feedLost hfeed) _ hboth.1
  | unroutable feed hfeed hwanted =>
      exact iff_of_false (by simp [EdgeEntry.reports]) fun hboth =>
        not_offlineTooLong (seesOffline_unroutable hfeed hwanted) _ hboth.1
  | replaceFailed feed wanted hfeed hwanted hwrite hfails =>
      exact iff_of_false (by simp [EdgeEntry.reports]) fun hboth =>
        not_offlineTooLong seesOffline_replaceFailed _ hboth.1
  | written feed wanted hfeed hwanted hwrite hfails =>
      refine iff_of_false (by simp [EdgeEntry.reports]) fun hboth =>
        not_offlineTooLong ?_ _ hboth.1
      simp [EdgeEntry.seesOffline, EdgeEntry.looks, EdgeEntry.writes]
  | pulled feed wanted hfeed hwanted hsame hnone =>
      rw [happlied, Option.some.injEq] at hsame
      rw [← hsame, hcommand] at hnone
      cases hnone
  | online feed wanted hfeed hwanted hsame hedge =>
      exact iff_of_false (by simp [EdgeEntry.reports]) fun hboth =>
        not_offlineTooLong (seesOffline_online hedge) _ hboth.1
  | offline feed wanted hfeed hwanted hsame hedge hwaiting =>
      refine iff_of_false (by simp [EdgeEntry.reports]) ?_
      rintro ⟨hlong, hnone⟩
      rw [offlineTooLong_iff h (seesOffline_offline hfeed hwanted hedge rfl)] at hlong
      rcases hwaiting with hflag | hshort
      · obtain ⟨e, he, hreported⟩ := hback.reported hflag
        rw [hnone e he] at hreported
        cases hreported
      · exact absurd hlong (not_le.mpr hshort)
  | failed feed wanted hfeed hwanted hsame hworker hedge hnew hlong =>
      rw [happlied, Option.some.injEq] at hsame
      have hlooks : EdgeEntry.looks ⟨r, if r.listenerFails then .reportLost else .failureReported⟩ =
          true := by
        cases r.listenerFails <;> rfl
      refine iff_of_true ?_ ⟨?_, hback.unreported hwanted (hsame ▸ hcommand) hnew⟩
      · cases r.listenerFails <;> rfl
      · exact (offlineTooLong_iff h (seesOffline_offline hfeed hwanted hedge hlooks)).mpr hlong

/-- A reconciliation that does not write leaves what was last written. -/
theorem Reconciles.applied_kept (hmove : Reconciles originRtspUrl route r route' did)
    (hkept : EdgeEntry.writes ⟨r, did⟩ = false) : route'.applied = route.applied := by
  cases hmove with
  | feedLost hfeed => rfl
  | unroutable feed hfeed hwanted => exact applied_feedOnline _
  | replaceFailed feed wanted hfeed hwanted hwrite hfails => exact applied_feedOnline _
  | written feed wanted hfeed hwanted hwrite hfails => cases hkept
  | pulled feed wanted hfeed hwanted hsame hnone => exact applied_feedOnline _
  | online feed wanted hfeed hwanted hsame hedge => exact applied_feedOnline _
  | offline feed wanted hfeed hwanted hsame hedge hwaiting => exact applied_feedOnline _
  | failed feed wanted hfeed hwanted hsame hworker hedge hnew hlong => exact applied_feedOnline _

/-- Writing the path starts a worker that has no failure to its name. -/
theorem Reconciles.started (hmove : Reconciles originRtspUrl route r route' did)
    (hundisturbed : route.undisturbed originRtspUrl r = true)
    (hwrites : EdgeEntry.writes ⟨r, did⟩ = true) :
    ∃ wanted, did = .written wanted ∧ route'.applied = some wanted ∧
      ∀ command, wanted.runOnInit = some command → Follows route' command [] := by
  cases hmove with
  | feedLost hfeed => cases hwrites
  | unroutable feed hfeed hwanted => cases hwrites
  | replaceFailed feed wanted hfeed hwanted hwrite hfails => cases hwrites
  | pulled feed wanted hfeed hwanted hsame hnone => cases hwrites
  | online feed wanted hfeed hwanted hsame hedge => cases hwrites
  | offline feed wanted hfeed hwanted hsame hedge hwaiting => cases hwrites
  | failed feed wanted hfeed hwanted hsame hworker hedge hnew hlong =>
      cases hfails : r.listenerFails with
      | true =>
          rw [hfails] at hwrites
          cases hwrites
      | false =>
          rw [hfails] at hwrites
          cases hwrites
  | written feed wanted hfeed hwanted hwrite hfails =>
      have hflag : (route.feedOnline r.nowMs).failureReported = false := by
        unfold EdgeRoute.undisturbed at hundisturbed
        rw [hfeed] at hundisturbed
        dsimp only at hundisturbed
        rw [hwanted] at hundisturbed
        dsimp only at hundisturbed
        rw [if_pos hwrite, hfails] at hundisturbed
        simpa using hundisturbed
      refine ⟨wanted, rfl, rfl, fun command hcommand =>
        ⟨(runOnInit_generation hwanted hcommand).le, rfl, ?_, ?_⟩⟩
      · intro hreported
        exact absurd (hflag.symm.trans hreported) Bool.false_ne_true
      · rintro ⟨e, he, -⟩
        cases he

/-- Every step the route admits keeps its flags in line with its entries. -/
theorem Standing.after {h : EdgeHistory} {step : EdgeStep} (hstanding : Standing h)
    (hadmits : h.admits originRtspUrl step) : Standing (h.after originRtspUrl step) := by
  cases step with
  | remember streamPath =>
      refine ⟨hstanding.applied, ?_⟩
      intro before writing during configuration hentries hwriting hduring
      obtain ⟨happlied, hfollows⟩ :=
        hstanding.last before writing during configuration hentries hwriting hduring
      refine ⟨happlied, fun command hcommand => ?_⟩
      obtain ⟨hgeneration, hoffline, hreported, hremembered⟩ := hfollows command hcommand
      exact ⟨hgeneration, hoffline, hreported, hremembered⟩
  | reconcile r =>
      have hmove := reconcileRoute_reconciles originRtspUrl h.route r
      cases hwrites : EdgeEntry.writes ⟨r, (reconcileRoute originRtspUrl h.route r).2⟩ with
      | false =>
          have hkept := hmove.applied_kept hwrites
          constructor
          · intro configuration happlied
            obtain ⟨before, writing, during, hentries, hwriting, hduring⟩ :=
              hstanding.applied configuration (hkept ▸ happlied)
            refine ⟨before, writing, during ++ [_],
              concat_eq_append_cons_iff.mpr (.inr ⟨during, rfl, hentries⟩), hwriting, ?_⟩
            rw [List.forall_mem_append, List.forall_mem_singleton]
            exact ⟨hduring, hwrites⟩
          · intro before writing during configuration hentries hwriting hduring
            rcases concat_eq_append_cons_iff.mp hentries with ⟨-, -, rfl⟩ | ⟨during', rfl, hsame⟩
            · rw [EdgeEntry.writes, hwriting] at hwrites
              cases hwrites
            · rw [List.forall_mem_append] at hduring
              obtain ⟨happlied, hfollows⟩ :=
                hstanding.last before writing during' configuration hsame hwriting hduring.1
              refine ⟨hkept.trans happlied, fun command hcommand => ?_⟩
              exact (hfollows command hcommand).reconciled happlied hcommand hadmits hmove hwrites
      | true =>
          obtain ⟨wanted, hdid, happlied, hfollows⟩ := hmove.started hadmits hwrites
          constructor
          · intro configuration hconfiguration
            refine ⟨h.entries, _, [], rfl, hdid.trans ?_, by simp⟩
            exact congrArg _ (Option.some.inj (happlied.symm.trans hconfiguration))
          · intro before writing during configuration hentries hwriting hduring
            rcases concat_eq_append_cons_iff.mp hentries with ⟨rfl, -, rfl⟩ | ⟨during', rfl, -⟩
            · have hsame : wanted = configuration :=
                Reconciled.written.inj (hdid.symm.trans hwriting)
              rw [← hsame]
              exact ⟨happlied, hfollows⟩
            · rw [List.forall_mem_append, List.forall_mem_singleton, hwrites] at hduring
              cases hduring.2

/-- A failure is reported of the worker last started. -/
theorem Reconciles.watched (hmove : Reconciles originRtspUrl route r route' did)
    (hreports : EdgeEntry.reports ⟨r, did⟩ = true) :
    ∃ configuration, route.applied = some configuration ∧ configuration.runOnInit ≠ none := by
  cases hmove with
  | feedLost hfeed => cases hreports
  | unroutable feed hfeed hwanted => cases hreports
  | replaceFailed feed wanted hfeed hwanted hwrite hfails => cases hreports
  | written feed wanted hfeed hwanted hwrite hfails => cases hreports
  | pulled feed wanted hfeed hwanted hsame hnone => cases hreports
  | online feed wanted hfeed hwanted hsame hedge => cases hreports
  | offline feed wanted hfeed hwanted hsame hedge hwaiting => cases hreports
  | failed feed wanted hfeed hwanted hsame hworker hedge hnew hlong => exact ⟨wanted, hsame, hworker⟩

/-- What the entries of a route say of its workers, its flags apart. -/
structure Reporting (entries : List EdgeEntry) : Prop where
  exactly : ∀ before started during entry after,
    entries = before ++ started :: (during ++ entry :: after) → started.startsWorker = true →
      (∀ e ∈ during, e.writes = false) →
        (entry.reports = true ↔ OfflineTooLong (during ++ [entry]) entry.read.nowMs ∧
          ∀ e ∈ during, e.reported = false)
  started : ∀ before entry after, entries = before ++ entry :: after → entry.reports = true →
    ∃ earlier started during, before = earlier ++ started :: during ∧
      started.startsWorker = true ∧ ∀ e ∈ during, e.writes = false

theorem startsWorker_iff {entry : EdgeEntry} : entry.startsWorker = true ↔
    ∃ configuration command, entry.did = .written configuration ∧
      configuration.runOnInit = some command := by
  unfold EdgeEntry.startsWorker
  cases entry.did with
  | written configuration => simp [Option.isSome_iff_exists]
  | _ => simp

theorem Reporting.after {h : EdgeHistory} {step : EdgeStep} (hreporting : Reporting h.entries)
    (hstanding : Standing h) : Reporting (h.after originRtspUrl step).entries := by
  cases step with
  | remember streamPath => exact hreporting
  | reconcile r =>
      have hmove := reconcileRoute_reconciles originRtspUrl h.route r
      constructor
      · intro before started during entry after hentries hstarts hduring
        rcases concat_eq_append_cons_iff.mp hentries with ⟨hnil, -, -⟩ | ⟨rest, hrest, hsame⟩
        · simp at hnil
        · rcases concat_eq_append_cons_iff.mp hrest.symm with ⟨rfl, rfl, rfl⟩ | ⟨after', -, rfl⟩
          · obtain ⟨configuration, command, hwritten, hcommand⟩ := startsWorker_iff.mp hstarts
            obtain ⟨happlied, hfollows⟩ :=
              hstanding.last before started rest configuration hsame hwritten hduring
            exact (hfollows command hcommand).reports_iff happlied hcommand hmove
          · exact hreporting.exactly before started during entry after' hsame hstarts hduring
      · intro before entry after hentries hreports
        rcases concat_eq_append_cons_iff.mp hentries with ⟨-, hsame, rfl⟩ | ⟨after', -, hsame⟩
        · obtain ⟨configuration, happlied, hworker⟩ := hmove.watched hreports
          obtain ⟨earlier, writing, during, hsplit, hwriting, hduring⟩ :=
            hstanding.applied configuration happlied
          obtain ⟨command, hcommand⟩ := Option.ne_none_iff_exists'.mp hworker
          exact ⟨earlier, writing, during, hsame ▸ hsplit,
            startsWorker_iff.mpr ⟨configuration, command, hwriting, hcommand⟩, hduring⟩
        · exact hreporting.started before entry after' hsame hreports

/-- A report made only while none has reached the listener reaches it once. -/
theorem Reporting.once {entries before after : List EdgeEntry} {started : EdgeEntry}
    (h : Reporting entries) (hentries : entries = before ++ started :: (during ++ after))
    (hstarts : started.startsWorker = true) (hduring : ∀ e ∈ during, e.writes = false) :
    during.countP EdgeEntry.reported ≤ 1 := by
  induction during using List.reverseRecOn generalizing after with
  | nil => simp
  | append_singleton during entry ih =>
      rw [List.append_assoc, List.singleton_append] at hentries
      rw [List.forall_mem_append] at hduring
      have hbefore := ih hentries hduring.1
      rw [List.countP_append, List.countP_singleton]
      split_ifs with hreported
      · have hreports : entry.reports = true := by
          unfold EdgeEntry.reports EdgeEntry.reported at *
          rw [hreported, Bool.true_or]
        have hnone := ((h.exactly before started during entry after hentries hstarts
          hduring.1).mp hreports).2
        have hzero : during.countP EdgeEntry.reported = 0 := by
          rw [List.countP_eq_zero]
          intro e he
          rw [hnone e he]
          exact Bool.false_ne_true
        omega
      · exact hbefore

theorem Standing.create (dateId streamPath : String) : Standing (.create dateId streamPath) := by
  constructor
  · intro configuration happlied
    cases happlied
  · intro before writing during configuration hentries
    simp [EdgeHistory.create] at hentries

theorem Reporting.nil : Reporting [] := by
  constructor
  · intro before started during entry after hentries
    simp at hentries
  · intro before entry after hentries
    simp at hentries

/-- In every run of a route none of whose steps writes the path over a failure reported, or cannot
look at the path while it is counted offline, each failed worker is reported once and no other
one is. -/
theorem workers_reported {dateId streamPath : String} {steps : List EdgeStep}
    (hadmitted : Admitted (EdgeHistory.admits originRtspUrl) (EdgeHistory.after originRtspUrl)
      (.create dateId streamPath) steps) :
    WorkersReported
      (steps.foldl (EdgeHistory.after originRtspUrl) (.create dateId streamPath)).entries := by
  have hrun : ∀ h, Moves (EdgeHistory.admits originRtspUrl)
      (fun s a s' => s' = EdgeHistory.after originRtspUrl s a) (.create dateId streamPath) h →
        Standing h ∧ Reporting h.entries := by
    intro h hmoves
    refine hmoves.invariant (P := fun h => Standing h ∧ Reporting h.entries) ?_ ?_
    · exact ⟨Standing.create dateId streamPath, Reporting.nil⟩
    · rintro v step w ⟨hstanding, hreporting⟩ hadmits rfl
      exact ⟨hstanding.after hadmits, hreporting.after hstanding⟩
  obtain ⟨-, hreporting⟩ := hrun _ (Moves.of_admitted hadmitted)
  exact ⟨hreporting.exactly, fun before started during after hentries hstarts hduring =>
    hreporting.once hentries hstarts hduring, hreporting.started⟩

end Runs

section Sample

/-- A feed the edge carries through the audio worker. -/
def opusFeed : OriginPath :=
  { name := "live/sp1"
    online := true
    onlineTime := none
    sourceType := some "webRTCSession"
    tracks2 := [⟨"H264", none, none⟩, ⟨"Opus", none, some 2⟩] }

/-- A feed the edge cannot carry. -/
def hevcFeed : OriginPath :=
  { opusFeed with tracks2 := [⟨"H265", none, none⟩, ⟨"Opus", none, some 2⟩] }

def reconcileAt (nowMs : Instant) (feed : OriginPath) (edgePath : Option Bool) : EdgeStep :=
  .reconcile ⟨nowMs, some feed, edgePath, false, false⟩

/-- The entries of a run of the date `d1` on `sp1`. -/
def entriesOf (steps : List EdgeStep) : List EdgeEntry :=
  (steps.foldl (EdgeHistory.after "rtsp://origin") (.create "d1" "sp1")).entries

/-- The worker is started, fails, and its feed's return starts another one, which fails too. -/
def restartedRun : List EdgeStep :=
  [reconcileAt 0 opusFeed none, reconcileAt 1000 opusFeed (some false),
    reconcileAt 16000 opusFeed (some false),
    .reconcile ⟨17000, none, some false, false, false⟩, reconcileAt 18000 opusFeed (some false),
    reconcileAt 19000 opusFeed (some false), reconcileAt 34000 opusFeed (some false)]

theorem workers_reported_sample :
    WorkersReported (entriesOf restartedRun) ∧
      (entriesOf restartedRun).countP EdgeEntry.reported = 2 :=
  ⟨workers_reported (by decide +kernel), by decide +kernel⟩

/-- The worker fails and is reported, then its path is lost, written again, and offline. -/
def rewrittenRun : List EdgeStep :=
  [reconcileAt 0 opusFeed none, reconcileAt 1000 opusFeed (some false),
    reconcileAt 16000 opusFeed (some false), reconcileAt 17000 opusFeed none,
    reconcileAt 18000 opusFeed (some false), reconcileAt 33000 opusFeed (some false)]

/-- The path is seen offline, then the feed cannot be routed for a while. -/
def unroutableRun : List EdgeStep :=
  [reconcileAt 0 opusFeed none, reconcileAt 1000 opusFeed (some false),
    reconcileAt 2000 hevcFeed (some true), reconcileAt 16000 opusFeed (some false)]

/-- The second worker of the first run is offline for the failure delay and not reported; the
worker of the second run is reported by the first reconciliation that sees it offline again. -/
theorem worker_failure_lost_and_invented :
    ¬ WorkersReported (entriesOf rewrittenRun) ∧ ¬ WorkersReported (entriesOf unroutableRun) := by
  constructor
  · intro h
    have hexactly := h.exactly ((entriesOf rewrittenRun).take 3)
      ((entriesOf rewrittenRun).get ⟨3, by decide +kernel⟩)
      [(entriesOf rewrittenRun).get ⟨4, by decide +kernel⟩]
      ((entriesOf rewrittenRun).get ⟨5, by decide +kernel⟩) [] (by decide +kernel) (by decide +kernel)
      (by decide +kernel)
    exact absurd hexactly (by decide +kernel)
  · intro h
    have hexactly := h.exactly [] ((entriesOf unroutableRun).get ⟨0, by decide +kernel⟩)
      (((entriesOf unroutableRun).drop 1).take 2)
      ((entriesOf unroutableRun).get ⟨3, by decide +kernel⟩) [] (by decide +kernel) (by decide +kernel)
      (by decide +kernel)
    exact absurd hexactly (by decide +kernel)

end Sample

end Arthome.Streaming
