import Arthome.Streaming.PathWatcher

/-!
# The watcher and the listener

Observations and restarts of the watcher, one after the other, each report taken
or failed, recorded or not. An observation whose reports are all taken leaves the
listener in step with the list exactly when the watcher's memory agreed with the
listener where it sends nothing, or names an onset: a path shown online and no
longer listed is remembered with that very onset. A restart, or an onset recorded
by a report that failed, can break it; without either the memory is the presence.
-/

namespace Arthome.Streaming

open Arthome.Core Library

inductive WatchStep where
  | observe (paths : PathList) (readAt : Instant) (outcome : String → ReportOutcome)
  | restart

/-- A feed is listed with an onset not before any earlier read that showed it gone. -/
def OnsetsFollow (steps : List WatchStep) : Prop :=
  ∀ before paths readAt outcome later, steps = before ++ .observe paths readAt outcome :: later →
    ∀ streamPath feed, feedOn (liveOf paths readAt) streamPath = some feed →
      ∀ gone goneAt goneOutcome, .observe gone goneAt goneOutcome ∈ before →
        feedOn (liveOf gone goneAt) streamPath = none → goneAt ≤ feed.onlineSince

/-- No restart, and no report recorded before failing. -/
def WatchStep.Clean : WatchStep → Prop
  | .observe _ _ outcome => ∀ streamPath, outcome streamPath ≠ .failed true
  | .restart => False

/-- The watcher before its first observation. -/
def Watching.started (runs : String → Option Run) : Watching := ⟨runs, ∅⟩

/-- Each listed feed's run is online since the listed onset, and no other run is online. -/
def InStep (w : Watching) (live : List LiveFeed) : Prop :=
  ∀ streamPath run, w.runs streamPath = some run → run.current.publisherOnlineSince =
    (feedOn live streamPath).map fun feed => feed.onlineSince

/-- On one path: a run shown online and not listed is remembered with that onset, and one
remembered with the listed onset is shown since it. -/
def RemembersOn (feed : Option LiveFeed) (shown reported : Option Instant) : Prop :=
  match feed with
  | none => ∀ onset, shown = some onset → reported = some onset
  | some feed => reported = some feed.onlineSince → shown = some feed.onlineSince

/-- The memory agrees with the listener where the watcher relies on it. -/
def Remembers (w : Watching) (live : List LiveFeed) : Prop :=
  ∀ streamPath run, w.runs streamPath = some run →
    RemembersOn (feedOn live streamPath) run.current.publisherOnlineSince
      (w.reported.lookup streamPath)

section Watched

variable [RunRules] {monitorPaths : List MonitorPath}

def Watching.step (monitorPaths : List MonitorPath) (w : Watching) : WatchStep → Watching
  | .observe paths readAt outcome => w.observe monitorPaths paths readAt outcome
  | .restart => { w with reported := ∅ }

def Watching.watch (monitorPaths : List MonitorPath) (w : Watching) (steps : List WatchStep) :
    Watching := steps.foldl (Watching.step monitorPaths) w

theorem Watching.watch_concat (w : Watching) (steps : List WatchStep) (step : WatchStep) :
    w.watch monitorPaths (steps ++ [step]) = (w.watch monitorPaths steps).step monitorPaths step :=
  List.foldl_append

/-- What the watched runs keep: each receives its feed, its recorded loss a read that showed the
path gone. -/
structure RunKept (steps : List WatchStep) (streamPath : String) (run : Run) : Prop where
  receives : run.Receives
  lost : ∀ lostAt ∈ run.current.publisherLostAt, ∃ paths outcome,
    .observe paths lostAt outcome ∈ steps ∧ feedOn (liveOf paths lostAt) streamPath = none

omit [RunRules] in
theorem OnsetsFollow.of_append {steps later : List WatchStep} (h : OnsetsFollow (steps ++ later)) :
    OnsetsFollow steps := by
  intro before paths readAt outcome rest hsteps
  refine h before paths readAt outcome (rest ++ later) ?_
  rw [hsteps, List.append_assoc, List.cons_append]

omit [RunRules] in
theorem RunKept.append {steps later : List WatchStep} {streamPath : String} {run : Run}
    (h : RunKept steps streamPath run) : RunKept (steps ++ later) streamPath run := by
  refine ⟨h.receives, ?_⟩
  intro lostAt hlost
  obtain ⟨paths, outcome, hobserved, hgone⟩ := h.lost lostAt hlost
  exact ⟨paths, outcome, List.mem_append_left _ hobserved, hgone⟩

variable [LawfulRunRules]

theorem RunKept.hear_online {steps : List WatchStep} {streamPath : String} {run : Run}
    (h : RunKept steps streamPath run) (protocol : IngestProtocol) (onset : Instant) :
    RunKept steps streamPath (run.hear monitorPaths (.publisherOnline protocol onset)) := by
  obtain ⟨hpresence, hreceives⟩ :=
    Run.hear_presence h.receives monitorPaths (.publisherOnline protocol onset)
  refine ⟨hreceives, ?_⟩
  have hlost := congrArg Presence.lostAt hpresence
  rw [FeedReport.report, Presence.told, Presence.online_lostAt] at hlost
  intro lostAt hlostAt
  exact h.lost lostAt (hlost.symm.trans hlostAt)

theorem RunKept.hear_offline {steps : List WatchStep} {streamPath : String} {run : Run}
    (h : RunKept steps streamPath run) {paths : PathList} {readAt : Instant}
    {outcome : String → ReportOutcome} (hgone : feedOn (liveOf paths readAt) streamPath = none)
    (onset : Instant) :
    RunKept (steps ++ [.observe paths readAt outcome]) streamPath
      (run.hear monitorPaths (.publisherOffline onset readAt)) := by
  obtain ⟨hpresence, hreceives⟩ :=
    Run.hear_presence h.receives monitorPaths (.publisherOffline onset readAt)
  refine ⟨hreceives, ?_⟩
  have hlost := congrArg Presence.lostAt hpresence
  simp only [FeedReport.report, Presence.told, Presence.offline] at hlost
  intro lostAt hlostAt
  have hlostAt : (run.hear monitorPaths (.publisherOffline onset readAt)).presence.lostAt =
    some lostAt := hlostAt
  rw [hlost] at hlostAt
  split_ifs at hlostAt
  · obtain rfl := Option.some.inj hlostAt
    exact ⟨paths, outcome, by simp, hgone⟩
  · exact h.append.lost lostAt hlostAt

theorem RunKept.hear_online_since {steps : List WatchStep} {streamPath : String} {run : Run}
    (h : RunKept steps streamPath run) (protocol : IngestProtocol) {onset : Instant}
    (hlost : ∀ lostAt ∈ run.current.publisherLostAt, lostAt ≤ onset) :
    (run.hear monitorPaths (.publisherOnline protocol onset)).current.publisherOnlineSince =
      some onset := by
  have hpresence := (Run.hear_presence h.receives monitorPaths (.publisherOnline protocol onset)).1
  rw [FeedReport.report, Presence.told, Presence.online_of_lost hlost] at hpresence
  exact congrArg Presence.onlineSince hpresence

theorem RunKept.hear_offline_since {steps : List WatchStep} {streamPath : String} {run : Run}
    (h : RunKept steps streamPath run) (onset readAt : Instant) :
    (run.hear monitorPaths (.publisherOffline onset readAt)).current.publisherOnlineSince =
      if run.current.publisherOnlineSince = some onset then none
      else run.current.publisherOnlineSince := by
  have hpresence := (Run.hear_presence h.receives monitorPaths (.publisherOffline onset readAt)).1
  rw [FeedReport.report, Presence.told] at hpresence
  split_ifs with hshown
  · rw [Presence.offline_shown (show run.presence.onlineSince = some onset from hshown)] at hpresence
    exact congrArg Presence.onlineSince hpresence
  · rw [Presence.offline_other (show run.presence.onlineSince ≠ some onset from hshown)] at hpresence
    exact congrArg Presence.onlineSince hpresence

omit [LawfulRunRules] in
/-- The run of a path shown hears of its onset at most. -/
theorem PathState.shown_run {s : PathState} {feed : LiveFeed} {outcome : ReportOutcome} {after : Run}
    (h : (s.shown monitorPaths feed outcome).run = some after) : ∃ run, s.run = some run ∧
      (after = run ∨ after = run.hear monitorPaths
        (.publisherOnline feed.protocol feed.onlineSince)) := by
  unfold PathState.shown at h
  by_cases hreported : s.reported = some feed.onlineSince
  · rw [if_pos hreported] at h
    exact ⟨after, h, .inl rfl⟩
  · rw [if_neg hreported] at h
    simp only at h
    split_ifs at h with hrecorded
    · obtain ⟨run, hrun, rfl⟩ := Option.map_eq_some_iff.mp h
      exact ⟨run, hrun, .inr rfl⟩
    · exact ⟨after, h, .inl rfl⟩

omit [LawfulRunRules] in
/-- The run of a path no longer shown hears of its loss at most. -/
theorem PathState.gone_run {s : PathState} {onlineSince readAt : Instant} {outcome : ReportOutcome}
    {after : Run} (h : (s.gone monitorPaths onlineSince readAt outcome).run = some after) :
    ∃ run, s.run = some run ∧
      (after = run ∨ after = run.hear monitorPaths (.publisherOffline onlineSince readAt)) := by
  simp only [PathState.gone] at h
  split_ifs at h with hrecorded
  · obtain ⟨run, hrun, rfl⟩ := Option.map_eq_some_iff.mp h
    exact ⟨run, hrun, .inr rfl⟩
  · exact ⟨after, h, .inl rfl⟩

/-- An observation keeps what is kept of each path. -/
theorem runKept_observe {w : Watching} {steps : List WatchStep} {streamPath : String}
    (h : ∀ run, w.runs streamPath = some run → RunKept steps streamPath run) (paths : PathList)
    (readAt : Instant) (outcome : String → ReportOutcome) (after : Run)
    (hafter : (w.observe monitorPaths paths readAt outcome).runs streamPath = some after) :
    RunKept (steps ++ [.observe paths readAt outcome]) streamPath after := by
  have hon : ((w.observe monitorPaths paths readAt outcome).on streamPath).run = some after := hafter
  rw [Watching.observe_on] at hon
  cases hfeed : feedOn (liveOf paths readAt) streamPath with
  | some feed =>
      rw [hfeed] at hon
      obtain ⟨run, hrun, rfl | rfl⟩ := PathState.shown_run hon
      · exact (h _ hrun).append
      · exact ((h _ hrun).hear_online _ _).append
  | none =>
      rw [hfeed] at hon
      cases hreported : (w.on streamPath).reported with
      | none =>
          rw [hreported] at hon
          exact (h _ hon).append
      | some onlineSince =>
          rw [hreported] at hon
          obtain ⟨run, hrun, rfl | rfl⟩ := PathState.gone_run hon
          · exact (h _ hrun).append
          · exact (h _ hrun).hear_offline hfeed onlineSince

/-- Whatever is observed, failed or restarted, every run keeps receiving its feed. -/
theorem runKept_watch {runs : String → Option Run} {streamPath : String}
    (h : ∀ run, runs streamPath = some run → RunKept [] streamPath run) (steps : List WatchStep)
    (run : Run)
    (hrun : ((Watching.started runs).watch monitorPaths steps).runs streamPath = some run) :
    RunKept steps streamPath run := by
  induction steps using List.reverseRecOn generalizing run with
  | nil => exact h run hrun
  | append_singleton steps step ih =>
      rw [Watching.watch_concat] at hrun
      cases step with
      | observe paths readAt outcome => exact runKept_observe ih paths readAt outcome run hrun
      | restart => exact (ih run hrun).append

omit [RunRules] [LawfulRunRules] in
/-- A listed onset is not before the loss recorded on its run. -/
theorem RunKept.lost_le {steps : List WatchStep} {streamPath : String} {run : Run}
    (h : RunKept steps streamPath run) {paths : PathList} {readAt : Instant}
    {outcome : String → ReportOutcome} (hfollow : OnsetsFollow (steps ++ [.observe paths readAt outcome]))
    {feed : LiveFeed} (hfeed : feedOn (liveOf paths readAt) streamPath = some feed) :
    ∀ lostAt ∈ run.current.publisherLostAt, lostAt ≤ feed.onlineSince := by
  intro lostAt hlost
  obtain ⟨gone, goneOutcome, hobserved, hgone⟩ := h.lost lostAt hlost
  exact hfollow steps paths readAt outcome [] rfl streamPath feed hfeed gone lostAt goneOutcome
    hobserved hgone

/-- What the run of a path has heard once every report of an observation is taken. -/
def heardOn (monitorPaths : List MonitorPath) (feed : Option LiveFeed) (readAt : Instant)
    (reported : Option Instant) (run : Run) : Run :=
  match feed, reported with
  | some feed, reported =>
    if reported = some feed.onlineSince then run
    else run.hear monitorPaths (.publisherOnline feed.protocol feed.onlineSince)
  | none, some onlineSince => run.hear monitorPaths (.publisherOffline onlineSince readAt)
  | none, none => run

omit [LawfulRunRules] in
theorem observe_runs_of_taken (w : Watching) (paths : PathList) (readAt : Instant)
    {outcome : String → ReportOutcome} {streamPath : String}
    (htaken : outcome streamPath = .taken) :
    (w.observe monitorPaths paths readAt outcome).runs streamPath =
      (w.runs streamPath).map (heardOn monitorPaths (feedOn (liveOf paths readAt) streamPath) readAt
        (w.reported.lookup streamPath)) := by
  have hon : (w.observe monitorPaths paths readAt outcome).runs streamPath = _ :=
    congrArg PathState.run (w.observe_on paths readAt outcome streamPath)
  rw [hon, htaken]
  have hreported : (w.on streamPath).reported = w.reported.lookup streamPath := rfl
  cases hfeed : feedOn (liveOf paths readAt) streamPath with
  | some feed =>
      by_cases hsame : w.reported.lookup streamPath = some feed.onlineSince
      · have hheard : heardOn monitorPaths (some feed) readAt (w.reported.lookup streamPath) = id :=
          funext fun _ => if_pos hsame
        rw [hheard, Option.map_id]
        exact congrArg PathState.run (if_pos hsame)
      · have hheard : heardOn monitorPaths (some feed) readAt (w.reported.lookup streamPath) =
            fun run => run.hear monitorPaths (.publisherOnline feed.protocol feed.onlineSince) :=
          funext fun _ => if_neg hsame
        rw [hheard]
        exact congrArg PathState.run (if_neg hsame)
  | none =>
      simp only [hreported]
      cases w.reported.lookup streamPath with
      | some onlineSince => rfl
      | none => exact Option.map_id'.symm

/-- The presence a run is left with, once told all an observation has to tell it. -/
theorem RunKept.heardOn_since {steps : List WatchStep} {streamPath : String} {run : Run}
    (h : RunKept steps streamPath run) {feed : Option LiveFeed} (readAt : Instant)
    (reported : Option Instant)
    (hlost : ∀ shown ∈ feed, ∀ lostAt ∈ run.current.publisherLostAt, lostAt ≤ shown.onlineSince) :
    (heardOn monitorPaths feed readAt reported run).current.publisherOnlineSince =
        feed.map (fun feed => feed.onlineSince) ↔
      RemembersOn feed run.current.publisherOnlineSince reported := by
  cases feed with
  | some feed =>
      simp only [heardOn, Option.map_some, RemembersOn]
      split_ifs with hreported
      · exact ⟨fun hshown _ => hshown, fun hremembers => hremembers hreported⟩
      · rw [h.hear_online_since feed.protocol (hlost feed rfl)]
        exact iff_of_true rfl fun hsame => absurd hsame hreported
  | none =>
      cases reported with
      | none =>
          simp only [heardOn, Option.map_none, RemembersOn, reduceCtorEq, imp_false]
          exact Option.eq_none_iff_forall_ne_some
      | some onlineSince =>
          simp only [heardOn, Option.map_none, RemembersOn]
          rw [h.hear_offline_since]
          split_ifs with hshown
          · refine iff_of_true rfl fun onset honset => ?_
            rw [← hshown, honset]
          · constructor
            · intro hnone onset honset
              rw [hnone] at honset
              cases honset
            · intro hremembers
              refine Option.eq_none_iff_forall_ne_some.mpr fun onset honset => hshown ?_
              rw [hremembers onset honset, honset]

/-- After an observation whose reports are all taken, the listener is in step with the list exactly
when the watcher's memory agreed with it. -/
theorem inStep_observe_iff {w : Watching} {steps : List WatchStep} {paths : PathList}
    {readAt : Instant} {outcome : String → ReportOutcome}
    (hkept : ∀ streamPath run, w.runs streamPath = some run → RunKept steps streamPath run)
    (hfollow : OnsetsFollow (steps ++ [.observe paths readAt outcome]))
    (htaken : ∀ streamPath, outcome streamPath = .taken) :
    InStep (w.observe monitorPaths paths readAt outcome) (liveOf paths readAt) ↔
      Remembers w (liveOf paths readAt) := by
  refine forall_congr' fun streamPath => ?_
  rw [observe_runs_of_taken w paths readAt (htaken streamPath)]
  cases hrun : w.runs streamPath with
  | none => simp
  | some run =>
      have hrunKept := hkept streamPath run hrun
      simp only [Option.map_some, Option.some.injEq, forall_eq']
      apply hrunKept.heardOn_since readAt (w.reported.lookup streamPath)
      exact fun feed hfeed => hrunKept.lost_le hfollow hfeed

/-- The onset remembered of a path is the one its run shows. -/
def PathState.InMemory (s : PathState) : Prop :=
  ∀ run, s.run = some run → run.current.publisherOnlineSince = s.reported

/-- An onset taken, or not recorded at all, keeps the memory equal to the presence. -/
theorem PathState.InMemory.shown {s : PathState} {steps : List WatchStep} {streamPath : String}
    {feed : LiveFeed} {outcome : ReportOutcome} (h : s.InMemory)
    (hkept : ∀ run, s.run = some run → RunKept steps streamPath run)
    (hlost : ∀ run, s.run = some run →
      ∀ lostAt ∈ run.current.publisherLostAt, lostAt ≤ feed.onlineSince)
    (hclean : outcome ≠ .failed true) : (s.shown monitorPaths feed outcome).InMemory := by
  unfold PathState.shown
  by_cases hsame : s.reported = some feed.onlineSince
  · rw [if_pos hsame]
    exact h
  · rw [if_neg hsame]
    cases outcome with
    | taken =>
        intro after hafter
        obtain ⟨run, hrun, rfl⟩ := Option.map_eq_some_iff.mp hafter
        exact (hkept run hrun).hear_online_since feed.protocol (hlost run hrun)
    | failed recorded =>
        cases recorded with
        | true => exact absurd rfl hclean
        | false => exact h

/-- A loss taken, or not recorded at all, keeps the memory equal to the presence. -/
theorem PathState.InMemory.gone {s : PathState} {steps : List WatchStep} {streamPath : String}
    {onlineSince readAt : Instant} {outcome : ReportOutcome} (h : s.InMemory)
    (hkept : ∀ run, s.run = some run → RunKept steps streamPath run)
    (hreported : s.reported = some onlineSince) (hclean : outcome ≠ .failed true) :
    (s.gone monitorPaths onlineSince readAt outcome).InMemory := by
  cases outcome with
  | taken =>
      intro after hafter
      obtain ⟨run, hrun, rfl⟩ := Option.map_eq_some_iff.mp hafter
      rw [(hkept run hrun).hear_offline_since, if_pos ((h run hrun).trans hreported)]
      rfl
  | failed recorded =>
      cases recorded with
      | true => exact absurd rfl hclean
      | false => exact h

/-- With no restart and no report recorded before failing, the memory is the presence. -/
theorem inMemory_watch {runs : String → Option Run} {streamPath : String}
    (hkept : ∀ run, runs streamPath = some run → RunKept [] streamPath run)
    (hunseen : ∀ run, runs streamPath = some run → run.presence = .unseen)
    (steps : List WatchStep) (hfollow : OnsetsFollow steps) (hclean : ∀ step ∈ steps, step.Clean) :
    (((Watching.started runs).watch monitorPaths steps).on streamPath).InMemory := by
  induction steps using List.reverseRecOn with
  | nil =>
      intro run hrun
      exact congrArg Presence.onlineSince (hunseen run hrun)
  | append_singleton steps step ih =>
      have hbefore := ih hfollow.of_append fun step hstep => hclean step (List.mem_append_left _ hstep)
      have hruns : ∀ run, ((Watching.started runs).watch monitorPaths steps).runs streamPath =
          some run → RunKept steps streamPath run := runKept_watch hkept steps
      have hlast := hclean step (by simp)
      rw [Watching.watch_concat]
      cases step with
      | restart => exact hlast.elim
      | observe paths readAt outcome =>
          rw [Watching.step, Watching.observe_on]
          cases hfeed : feedOn (liveOf paths readAt) streamPath with
          | some feed =>
              exact hbefore.shown hruns (fun run hrun => (hruns run hrun).lost_le hfollow hfeed)
                (hlast streamPath)
          | none =>
              simp only
              cases hreported : (((Watching.started runs).watch monitorPaths steps).on
                streamPath).reported with
              | none => exact hbefore
              | some onlineSince => exact hbefore.gone hruns hreported (hlast streamPath)

omit [RunRules] [LawfulRunRules] in
theorem remembers_of_inMemory {w : Watching} (h : ∀ streamPath, (w.on streamPath).InMemory)
    (live : List LiveFeed) : Remembers w live := by
  intro streamPath run hrun
  have hmemory : run.current.publisherOnlineSince = w.reported.lookup streamPath :=
    h streamPath run hrun
  rw [← hmemory]
  unfold RemembersOn
  split
  · exact fun onset honset => honset
  · exact fun honset => honset

/-- Any observations, failures and restarts of the watcher, then one observation whose reports are
all taken: the listener is in step with its list exactly when the watcher's memory agreed with the
listener before it. With no restart and no report recorded before failing it always did. -/
theorem watcher_keeps_presence (monitorPaths : List MonitorPath) (runs : String → Option Run)
    (hruns : ∀ streamPath run, runs streamPath = some run →
      run.Reachable ∧ run.current.state ≠ .ended ∧ run.presence = .unseen)
    (steps : List WatchStep) (paths : PathList) (readAt : Instant)
    (outcome : String → ReportOutcome)
    (hfollow : OnsetsFollow (steps ++ [.observe paths readAt outcome]))
    (htaken : ∀ streamPath, outcome streamPath = .taken) :
    let w := (Watching.started runs).watch monitorPaths steps
    (InStep (w.observe monitorPaths paths readAt outcome) (liveOf paths readAt) ↔
        Remembers w (liveOf paths readAt)) ∧
      ((∀ step ∈ steps, step.Clean) → Remembers w (liveOf paths readAt)) := by
  intro w
  have hkept : ∀ streamPath run, runs streamPath = some run → RunKept [] streamPath run := by
    intro streamPath run hrun
    obtain ⟨hreachable, hlive, hunseen⟩ := hruns streamPath run hrun
    refine ⟨hreachable.receives hlive, ?_⟩
    intro lostAt hlost
    rw [show run.current.publisherLostAt = none from congrArg Presence.lostAt hunseen] at hlost
    cases hlost
  refine ⟨inStep_observe_iff (fun streamPath => runKept_watch (hkept streamPath) steps) hfollow
    htaken, fun hclean => remembers_of_inMemory (fun streamPath => ?_) _⟩
  exact inMemory_watch (hkept streamPath) (fun run hrun => (hruns streamPath run hrun).2.2) steps
    hfollow.of_append hclean

end Watched

section Sample

open Arthome.Core.Sample

/-- One run, prepared, on the path `sp`. -/
def sampleRuns : String → Option Run := fun streamPath =>
  if streamPath = "sp" then some (Run.prepare ⟨1, 2, 3, "sp"⟩ 0) else none

/-- The path `sp` shown by a feed since an instant, and nothing shown. -/
def samplePaths (onset : Instant) : PathList :=
  ⟨[⟨"live/sp", true, some onset, some "srtConn"⟩], by simp⟩

def noPaths : PathList := ⟨[], by simp⟩

/-- A feed reported online and gone while the watcher restarts, or reported by a call that failed
once recorded: the run is left online with nothing listed. -/
theorem online_left_by_restart_or_failure :
    ¬ InStep (((Watching.started sampleRuns).watch []
        [.observe (samplePaths 100) 150 fun _ => .taken, .restart]).observe [] noPaths 200
          fun _ => .taken) (liveOf noPaths 200) ∧
      ¬ InStep (((Watching.started sampleRuns).watch []
        [.observe (samplePaths 100) 150 fun _ => .failed true]).observe [] noPaths 200
          fun _ => .taken) (liveOf noPaths 200) := by
  constructor
  · intro hstep
    have honline := hstep "sp" _ rfl
    exact absurd honline (by decide)
  · intro hstep
    have honline := hstep "sp" _ rfl
    exact absurd honline (by decide)

theorem watcher_keeps_presence_sample :
    InStep (((Watching.started sampleRuns).watch []
      [.observe (samplePaths 100) 150 fun _ => .taken]).observe [] noPaths 200 fun _ => .taken)
      (liveOf noPaths 200) := by
  have hruns : ∀ streamPath run, sampleRuns streamPath = some run →
      run.Reachable ∧ run.current.state ≠ .ended ∧ run.presence = .unseen := by
    intro streamPath run hrun
    unfold sampleRuns at hrun
    split_ifs at hrun
    obtain rfl := Option.some.inj hrun
    exact ⟨⟨⟨1, 2, 3, "sp"⟩, 0, [], by simp, rfl⟩, by decide, rfl⟩
  have hfollow : OnsetsFollow ([.observe (samplePaths 100) 150 fun _ => .taken] ++
      [.observe noPaths 200 fun _ => .taken]) := by
    intro before paths readAt outcome later hsteps streamPath feed hfeed gone goneAt goneOutcome
      hbefore
    cases before with
    | nil => cases hbefore
    | cons first before =>
        cases before with
        | nil =>
            -- The second observation lists nothing.
            rw [List.cons_append, List.cons_append, List.nil_append, List.nil_append] at hsteps
            injection (List.cons.inj (List.cons.inj hsteps).2).1 with hpaths hread
            rw [← hpaths, ← hread] at hfeed
            cases hfeed
        | cons second before =>
            have hlength := congrArg List.length hsteps
            simp at hlength
  have hkept := watcher_keeps_presence [] sampleRuns hruns
    [.observe (samplePaths 100) 150 fun _ => .taken] noPaths 200 (fun _ => .taken) hfollow
    fun _ => rfl
  exact hkept.1.mpr (hkept.2 (by
    intro step hstep
    obtain rfl := List.mem_singleton.mp hstep
    intro streamPath
    simp))

end Sample

end Arthome.Streaming
