import Arthome.Library.Batch
import Arthome.Library.Table
import Arthome.Streaming.FeedPresence
import Mathlib.Data.List.AList

/-!
# The watcher of the origin's paths

The watcher turns each list of paths read from the origin into reports, by
difference with what it remembers having reported. A report the listener failed
to take is not remembered, so the next observation repeats it; a loss is stamped
with the instant the list was read. A report that fails may have been recorded all
the same, and a restarted watcher remembers nothing.
-/

namespace Arthome.Streaming

open Arthome.Core Library

/-- What is read of one path: an unreadable `onlineTime` is no instant. -/
structure MediaMtxPath where
  name : String
  online : Bool
  onlineTime : Option Instant
  sourceType : Option String
  deriving Repr, DecidableEq

/-- The origin's paths, by name. -/
structure PathList where
  paths : List MediaMtxPath
  names : (paths.map fun path => path.name).Nodup

/-- The source types of the protocols the origin ingests; any other is not a feed. -/
def protocolOfSource (path : MediaMtxPath) : Option IngestProtocol :=
  path.sourceType.bind fun sourceType =>
    if sourceType = "webRTCSession" then some .whip
    else if sourceType = "srtConn" then some .srt
    else none

def onlineInstantOf (path : MediaMtxPath) (readAt : Instant) : Instant :=
  path.onlineTime.getD readAt

def livePrefix : List Char := "live/".toList

/-- The stream path of a live path's name. -/
def streamPathOf (name : String) : Option String :=
  if livePrefix <+: name.toList then some (String.ofList (name.toList.drop livePrefix.length))
  else none

/-- A feed as the list shows it. -/
structure LiveFeed where
  streamPath : String
  protocol : IngestProtocol
  onlineSince : Instant
  deriving Repr, DecidableEq

def liveFeedOf (readAt : Instant) (path : MediaMtxPath) : Option LiveFeed :=
  if path.online then do
    let streamPath ← streamPathOf path.name
    let protocol ← protocolOfSource path
    return ⟨streamPath, protocol, onlineInstantOf path readAt⟩
  else none

/-- The feeds the list shows. -/
def liveOf (paths : PathList) (readAt : Instant) : List LiveFeed :=
  paths.paths.filterMap (liveFeedOf readAt)

/-- The feed the list shows on a stream path. -/
def feedOn (live : List LiveFeed) (streamPath : String) : Option LiveFeed :=
  live.find? fun feed => feed.streamPath = streamPath

/-- How a report went: one that failed may have been recorded before failing. -/
inductive ReportOutcome where
  | taken
  | failed (recorded : Bool)
  deriving Repr, DecidableEq

def ReportOutcome.recorded : ReportOutcome → Bool
  | .taken => true
  | .failed recorded => recorded

/-- The runs by their stream path, and the watcher's memory: each path's reported onset. -/
structure Watching where
  runs : String → Option Run
  reported : AList fun _ : String => Instant

namespace Watching

variable [RunRules] (monitorPaths : List MonitorPath)

/-- A report made to the listener, and what the watcher then remembers if it was taken. -/
def report (w : Watching) (streamPath : String) (report : FeedReport) (outcome : ReportOutcome)
    (remembered : AList fun _ : String => Instant) : Watching where
  runs :=
    if outcome.recorded then
      Function.update w.runs streamPath
        ((w.runs streamPath).map fun run => run.hear monitorPaths report)
    else w.runs
  reported := if outcome = .taken then remembered else w.reported

def reportOnline (outcome : String → ReportOutcome) (w : Watching) (feed : LiveFeed) : Watching :=
  if w.reported.lookup feed.streamPath = some feed.onlineSince then w
  else
    w.report monitorPaths feed.streamPath (.publisherOnline feed.protocol feed.onlineSince)
      (outcome feed.streamPath) (w.reported.insert feed.streamPath feed.onlineSince)

def reportOffline (live : List LiveFeed) (readAt : Instant) (outcome : String → ReportOutcome)
    (w : Watching) (entry : Sigma fun _ : String => Instant) : Watching :=
  if (feedOn live entry.1).isSome then w
  else
    w.report monitorPaths entry.1 (.publisherOffline entry.2 readAt) (outcome entry.1)
      (w.reported.erase entry.1)

/-- One observation: the onsets not reported yet, then the losses of what is no longer shown. -/
def observe (w : Watching) (paths : PathList) (readAt : Instant)
    (outcome : String → ReportOutcome) : Watching :=
  let live := liveOf paths readAt
  let onset := live.foldl (reportOnline monitorPaths outcome) w
  onset.reported.entries.foldl (reportOffline monitorPaths live readAt outcome) onset

end Watching

/-! ## One path at a time -/

theorem streamPathOf_injective {a b streamPath : String} (ha : streamPathOf a = some streamPath)
    (hb : streamPathOf b = some streamPath) : a = b := by
  unfold streamPathOf at ha hb
  split_ifs at ha hb with hliveA hliveB
  have hrest := Option.some.inj (ha.trans hb.symm)
  apply String.toList_injective
  rw [← List.prefix_iff_eq_append.mp hliveA, ← List.prefix_iff_eq_append.mp hliveB,
    String.ofList_injective hrest]

theorem liveFeedOf_streamPath {readAt : Instant} {path : MediaMtxPath} {feed : LiveFeed}
    (h : liveFeedOf readAt path = some feed) : streamPathOf path.name = some feed.streamPath := by
  unfold liveFeedOf at h
  split_ifs at h
  simp only [Option.bind_eq_bind, Option.bind_eq_some_iff, Option.pure_def, Option.some.injEq] at h
  obtain ⟨streamPath, hstreamPath, protocol, -, rfl⟩ := h
  exact hstreamPath

theorem liveOf_nodup (paths : PathList) (readAt : Instant) :
    ((liveOf paths readAt).map fun feed => feed.streamPath).Nodup := by
  rw [List.Nodup, List.pairwise_map, liveOf, List.pairwise_filterMap]
  refine (List.pairwise_map.mp paths.names).imp ?_
  intro path other hnames feed hfeed otherFeed hother hsame
  have hother := liveFeedOf_streamPath hother
  rw [← hsame] at hother
  exact hnames (streamPathOf_injective (liveFeedOf_streamPath hfeed) hother)

theorem feedOn_eq_some_iff {paths : PathList} {readAt : Instant} {streamPath : String}
    {feed : LiveFeed} : feedOn (liveOf paths readAt) streamPath = some feed ↔
      feed ∈ liveOf paths readAt ∧ feed.streamPath = streamPath :=
  find?_eq_some_iff_of_nodup (liveOf_nodup paths readAt)

theorem feedOn_eq_none_iff {live : List LiveFeed} {streamPath : String} :
    feedOn live streamPath = none ↔ streamPath ∉ live.map fun feed => feed.streamPath :=
  find?_eq_none_iff_not_mem

/-- What is kept of one path: its run, and the onset the watcher remembers. -/
structure PathState where
  run : Option Run
  reported : Option Instant

section OnePath

variable [RunRules] {monitorPaths : List MonitorPath}

/-- What an observation does on a path the list shows. -/
def PathState.shown (monitorPaths : List MonitorPath) (feed : LiveFeed) (outcome : ReportOutcome)
    (s : PathState) : PathState :=
  if s.reported = some feed.onlineSince then s
  else
    { run :=
        if outcome.recorded then
          s.run.map fun run =>
            run.hear monitorPaths (.publisherOnline feed.protocol feed.onlineSince)
        else s.run
      reported := if outcome = .taken then some feed.onlineSince else s.reported }

/-- What an observation does on a path remembered since `onlineSince` and no longer shown. -/
def PathState.gone (monitorPaths : List MonitorPath) (onlineSince readAt : Instant)
    (outcome : ReportOutcome) (s : PathState) : PathState where
  run :=
    if outcome.recorded then
      s.run.map fun run => run.hear monitorPaths (.publisherOffline onlineSince readAt)
    else s.run
  reported := if outcome = .taken then none else s.reported

def Watching.on (w : Watching) (streamPath : String) : PathState :=
  ⟨w.runs streamPath, w.reported.lookup streamPath⟩

theorem Watching.report_on_other {w : Watching} {streamPath other : String} {report : FeedReport}
    {outcome : ReportOutcome} {remembered : AList fun _ : String => Instant}
    (hother : other ≠ streamPath)
    (hremembered : remembered.lookup other = w.reported.lookup other) :
    (w.report monitorPaths streamPath report outcome remembered).on other = w.on other := by
  unfold Watching.report Watching.on
  congr 1
  · dsimp only
    split_ifs
    · exact Function.update_of_ne hother _ _
    · rfl
  · dsimp only
    split_ifs
    · exact hremembered
    · rfl

theorem Watching.reportOnline_on (outcome : String → ReportOutcome) (w : Watching) (feed : LiveFeed) :
    (w.reportOnline monitorPaths outcome feed).on feed.streamPath =
      (w.on feed.streamPath).shown monitorPaths feed (outcome feed.streamPath) := by
  unfold Watching.reportOnline PathState.shown
  by_cases hreported : w.reported.lookup feed.streamPath = some feed.onlineSince
  · rw [if_pos hreported, if_pos (show (w.on feed.streamPath).reported = _ from hreported)]
  · rw [if_neg hreported, if_neg (show (w.on feed.streamPath).reported ≠ _ from hreported)]
    unfold Watching.report Watching.on
    congr 1
    · dsimp only
      split_ifs
      · exact Function.update_self _ _ _
      · rfl
    · dsimp only
      split_ifs
      · exact AList.lookup_insert _
      · rfl

theorem Watching.reportOnline_on_other (outcome : String → ReportOutcome) (w : Watching)
    (feed : LiveFeed) (other : String) (hother : other ≠ feed.streamPath) :
    (w.reportOnline monitorPaths outcome feed).on other = w.on other := by
  unfold Watching.reportOnline
  split_ifs
  · rfl
  · exact Watching.report_on_other hother (AList.lookup_insert_ne hother)

theorem Watching.reportOffline_on (live : List LiveFeed) (readAt : Instant)
    (outcome : String → ReportOutcome) (w : Watching) (entry : Sigma fun _ : String => Instant) :
    (w.reportOffline monitorPaths live readAt outcome entry).on entry.1 =
      if (feedOn live entry.1).isSome then w.on entry.1
      else (w.on entry.1).gone monitorPaths entry.2 readAt (outcome entry.1) := by
  unfold Watching.reportOffline
  split_ifs with hshown
  · rfl
  · unfold Watching.report Watching.on PathState.gone
    congr 1
    · dsimp only
      split_ifs
      · exact Function.update_self _ _ _
      · rfl
    · dsimp only
      split_ifs
      · exact AList.lookup_erase _ _
      · rfl

theorem Watching.reportOffline_on_other (live : List LiveFeed) (readAt : Instant)
    (outcome : String → ReportOutcome) (w : Watching) (entry : Sigma fun _ : String => Instant)
    (other : String) (hother : other ≠ entry.1) :
    (w.reportOffline monitorPaths live readAt outcome entry).on other = w.on other := by
  unfold Watching.reportOffline
  split_ifs
  · rfl
  · exact Watching.report_on_other hother (AList.lookup_erase_ne hother)

/-- The onsets reported, path by path. -/
theorem Watching.reportOnlines_on (w : Watching) (paths : PathList) (readAt : Instant)
    (outcome : String → ReportOutcome) (streamPath : String) :
    ((liveOf paths readAt).foldl (Watching.reportOnline monitorPaths outcome) w).on streamPath =
      match feedOn (liveOf paths readAt) streamPath with
      | some feed => (w.on streamPath).shown monitorPaths feed (outcome streamPath)
      | none => w.on streamPath := by
  cases hfeed : feedOn (liveOf paths readAt) streamPath with
  | none =>
      exact view_foldl_of_not_mem (Watching.reportOnline_on_other outcome)
        (feedOn_eq_none_iff.mp hfeed) w
  | some feed =>
      obtain ⟨hmem, rfl⟩ := feedOn_eq_some_iff.mp hfeed
      exact view_foldl_of_mem (Watching.reportOnline_on outcome)
        (Watching.reportOnline_on_other outcome) (liveOf_nodup paths readAt) hmem w

/-- The losses reported, path by path. -/
theorem Watching.reportOfflines_on (w : Watching) (live : List LiveFeed) (readAt : Instant)
    (outcome : String → ReportOutcome) (streamPath : String) :
    (w.reported.entries.foldl (Watching.reportOffline monitorPaths live readAt outcome) w).on
        streamPath =
      match (w.on streamPath).reported with
      | some onlineSince =>
        if (feedOn live streamPath).isSome then w.on streamPath
        else (w.on streamPath).gone monitorPaths onlineSince readAt (outcome streamPath)
      | none => w.on streamPath := by
  cases hreported : (w.on streamPath).reported with
  | none =>
      refine view_foldl_of_not_mem (Watching.reportOffline_on_other live readAt outcome) ?_ w
      exact AList.lookup_eq_none.mp hreported
  | some onlineSince =>
      have hentry : (⟨streamPath, onlineSince⟩ : Sigma fun _ : String => Instant) ∈
          w.reported.entries := AList.mem_lookup_iff.mp hreported
      exact view_foldl_of_mem
        (f := fun entry s => if (feedOn live entry.1).isSome then s
          else s.gone monitorPaths entry.2 readAt (outcome entry.1))
        (Watching.reportOffline_on live readAt outcome)
        (Watching.reportOffline_on_other live readAt outcome) w.reported.nodupKeys hentry w

/-- An observation, path by path: a feed shown is reported unless remembered with that onset, and
a path remembered but not shown is reported lost at the read. -/
theorem Watching.observe_on (w : Watching) (paths : PathList) (readAt : Instant)
    (outcome : String → ReportOutcome) (streamPath : String) :
    (w.observe monitorPaths paths readAt outcome).on streamPath =
      match feedOn (liveOf paths readAt) streamPath with
      | some feed => (w.on streamPath).shown monitorPaths feed (outcome streamPath)
      | none =>
        match (w.on streamPath).reported with
        | some onlineSince =>
          (w.on streamPath).gone monitorPaths onlineSince readAt (outcome streamPath)
        | none => w.on streamPath := by
  simp only [Watching.observe]
  rw [Watching.reportOfflines_on, Watching.reportOnlines_on]
  cases hfeed : feedOn (liveOf paths readAt) streamPath with
  | none =>
      simp only [Option.isSome_none, Bool.false_eq_true, if_false]
  | some feed =>
      simp only [Option.isSome_some, if_true]
      split <;> rfl

end OnePath

end Arthome.Streaming
