import Arthome.Library.Machine
import Arthome.Streaming.PathWatcher

/-!
# The edge's paths

A date signed lately has a path on the edge, written through the edge's Control API whenever
its feed is online and what the path should be is not what was last written, or is no longer
there. An Opus feed goes through an audio worker the path starts: a path seen offline long
enough while its feed is online is a worker that failed for good, reported to the listener.
-/

namespace Arthome.Streaming

open Arthome.Core Library

/-- The worker exits this long after it lost its input. -/
def audioWorkerExitsAfterMs : ℤ := 12000

/-- An edge path offline this long while the feed is online is a worker that failed for good. -/
def audioWorkerFailedAfterMs : ℤ := 15000

structure MediaMtxTrack where
  codec : String
  sampleRate : Option ℕ
  channelCount : Option ℕ
  deriving Repr, DecidableEq

/-- A path of the origin with the tracks it carries. -/
structure OriginPath extends MediaMtxPath where
  tracks2 : List MediaMtxTrack
  deriving Repr, DecidableEq

structure AlwaysAvailableTrack where
  codec : String
  sampleRate : Option ℕ
  channelCount : Option ℕ
  deriving Repr, DecidableEq

/-- The words of `/audio-worker.sh`: the script ignores the generation, which recreates the path. -/
structure AudioWorkerCommand where
  origin : String
  watchPath : String
  generation : ℕ
  deriving Repr, DecidableEq

structure EdgePathConfiguration where
  source : String
  alwaysAvailable : Bool
  alwaysAvailableTracks : List AlwaysAvailableTrack
  runOnInit : Option AudioWorkerCommand
  runOnInitRestart : Option Bool
  deriving Repr, DecidableEq

def livePathOf (streamPath : String) : String := "live/" ++ streamPath

def watchPathOf (dateId : String) : String := "watch/" ++ dateId

/-- What the worker always emits. -/
def workerAudio : AlwaysAvailableTrack := ⟨"MPEG4Audio", some 48000, some 2⟩

def audioTrackOf (track : MediaMtxTrack) : Option AlwaysAvailableTrack := do
  let sampleRate ← track.sampleRate
  let channelCount ← track.channelCount
  return ⟨"MPEG4Audio", some sampleRate, some channelCount⟩

/-- One date's edge path as this replica last wrote it, and its audio worker's health. -/
structure EdgeRoute where
  dateId : String
  streamPath : String
  generation : ℕ
  applied : Option EdgePathConfiguration
  feedOfflineSinceMs : Option Instant
  edgeOfflineSinceMs : Option Instant
  failureReported : Bool
  deriving Repr, DecidableEq

/-- H.264 with AAC is pulled as it is, H.264 with Opus goes through the audio worker, anything else
is left unrouted. -/
def edgePathConfigurationOf (feed : OriginPath) (route : EdgeRoute) (originRtspUrl : String) :
    Option EdgePathConfiguration :=
  let codecs := feed.tracks2.map fun track => track.codec
  if codecs.length ≠ 2 ∨ "H264" ∉ codecs then none
  else
    let video : AlwaysAvailableTrack := ⟨"H264", none, none⟩
    let origin := originRtspUrl ++ "/" ++ livePathOf route.streamPath
    match feed.tracks2.find? fun track => track.codec = "MPEG-4 Audio" with
    | some aac => (audioTrackOf aac).map fun audio => ⟨origin, true, [video, audio], none, none⟩
    | none =>
      if "Opus" ∉ codecs then none
      else
        some ⟨"publisher", true, [video, workerAudio],
          some ⟨origin, watchPathOf route.dateId, route.generation⟩, some false⟩

namespace EdgeRoute

def create (dateId streamPath : String) : EdgeRoute :=
  ⟨dateId, streamPath, 1, none, none, none, false⟩

def feedOffline (route : EdgeRoute) (nowMs : Instant) : EdgeRoute :=
  { route with
    feedOfflineSinceMs := some (route.feedOfflineSinceMs.getD nowMs)
    edgeOfflineSinceMs := none }

/-- A feed back after the worker exited, or after its failure, gets a new worker. -/
def feedOnline (route : EdgeRoute) (nowMs : Instant) : EdgeRoute :=
  match route.feedOfflineSinceMs with
  | none => route
  | some since =>
    let workerGone := route.failureReported || decide (audioWorkerExitsAfterMs ≤ nowMs - since)
    { route with
      generation :=
        if route.applied.isSome && workerGone then route.generation + 1 else route.generation
      feedOfflineSinceMs := none
      failureReported := false }

def written (route : EdgeRoute) (configuration : EdgePathConfiguration) : EdgeRoute :=
  { route with applied := some configuration, edgeOfflineSinceMs := none }

/-- Whether to report the worker failed: its edge path offline past its budget, the feed online. -/
def workerFailedBy (route : EdgeRoute) (nowMs : Instant) (edgeOnline : Bool) : EdgeRoute × Bool :=
  if edgeOnline then ({ route with edgeOfflineSinceMs := none }, false)
  else
    let since := route.edgeOfflineSinceMs.getD nowMs
    let route := { route with edgeOfflineSinceMs := some since }
    if route.failureReported || decide (nowMs - since < audioWorkerFailedAfterMs) then
      (route, false)
    else ({ route with failureReported := true }, true)

/-- The report did not reach the listener. -/
def failureNotReported (route : EdgeRoute) : EdgeRoute := { route with failureReported := false }

/-- The date signed again, possibly on another stream path. -/
def remember (route : EdgeRoute) (streamPath : String) : EdgeRoute :=
  { route with streamPath := streamPath }

end EdgeRoute

/-- What one reconciliation finds: the origin's path of the feed and whether the edge's path is
online, each when it is there, and which of the calls it may make fail. -/
structure Reconciliation where
  nowMs : Instant
  feed : Option OriginPath
  edgePath : Option Bool
  replaceFails : Bool
  listenerFails : Bool
  deriving Repr, DecidableEq

/-- What one reconciliation did. -/
inductive Reconciled where
  | feedLost
  | unroutable
  | replaceFailed
  | written (configuration : EdgePathConfiguration)
  | pulled
  | notFailed
  | failureReported
  | reportLost
  deriving Repr, DecidableEq

/-- The feed online through a protocol the origin ingests. -/
def Reconciliation.onlineFeed (reconciliation : Reconciliation) : Option OriginPath :=
  reconciliation.feed.filter fun feed =>
    feed.online && (protocolOfSource feed.toMediaMtxPath).isSome

def reconcileRoute (originRtspUrl : String) (route : EdgeRoute) (r : Reconciliation) :
    EdgeRoute × Reconciled :=
  match r.onlineFeed with
  | none => (route.feedOffline r.nowMs, .feedLost)
  | some feed =>
    let route := route.feedOnline r.nowMs
    match edgePathConfigurationOf feed route originRtspUrl with
    | none => (route, .unroutable)
    | some wanted =>
      if some wanted ≠ route.applied ∨ r.edgePath = none then
        if r.replaceFails then (route, .replaceFailed) else (route.written wanted, .written wanted)
      else if wanted.runOnInit = none then (route, .pulled)
      else
        match route.workerFailedBy r.nowMs (r.edgePath.getD false) with
        | (route, false) => (route, .notFailed)
        | (route, true) =>
          if r.listenerFails then (route.failureNotReported, .reportLost)
          else (route, .failureReported)

/-! ## What a reconciliation does -/

section Moves

variable {originRtspUrl : String} {route : EdgeRoute} {r : Reconciliation}

/-- The instant the edge path is seen offline since, the reconciliation's own when it is new. -/
def EdgeRoute.offlineSince (route : EdgeRoute) (nowMs : Instant) : Instant :=
  route.edgeOfflineSinceMs.getD nowMs

/-- The route as a reconciliation that finds the feed online leaves it, before its worker. -/
inductive Reconciles (originRtspUrl : String) (route : EdgeRoute) (r : Reconciliation) :
    EdgeRoute → Reconciled → Prop
  | feedLost : r.onlineFeed = none →
      Reconciles originRtspUrl route r (route.feedOffline r.nowMs) .feedLost
  | unroutable (feed : OriginPath) : r.onlineFeed = some feed →
      edgePathConfigurationOf feed (route.feedOnline r.nowMs) originRtspUrl = none →
      Reconciles originRtspUrl route r (route.feedOnline r.nowMs) .unroutable
  | replaceFailed (feed : OriginPath) (wanted : EdgePathConfiguration) :
      r.onlineFeed = some feed →
      edgePathConfigurationOf feed (route.feedOnline r.nowMs) originRtspUrl = some wanted →
      (some wanted ≠ route.applied ∨ r.edgePath = none) → r.replaceFails = true →
      Reconciles originRtspUrl route r (route.feedOnline r.nowMs) .replaceFailed
  | written (feed : OriginPath) (wanted : EdgePathConfiguration) :
      r.onlineFeed = some feed →
      edgePathConfigurationOf feed (route.feedOnline r.nowMs) originRtspUrl = some wanted →
      (some wanted ≠ route.applied ∨ r.edgePath = none) → r.replaceFails = false →
      Reconciles originRtspUrl route r ((route.feedOnline r.nowMs).written wanted) (.written wanted)
  | pulled (feed : OriginPath) (wanted : EdgePathConfiguration) : r.onlineFeed = some feed →
      edgePathConfigurationOf feed (route.feedOnline r.nowMs) originRtspUrl = some wanted →
      route.applied = some wanted → wanted.runOnInit = none →
      Reconciles originRtspUrl route r (route.feedOnline r.nowMs) .pulled
  | online (feed : OriginPath) (wanted : EdgePathConfiguration) : r.onlineFeed = some feed →
      edgePathConfigurationOf feed (route.feedOnline r.nowMs) originRtspUrl = some wanted →
      route.applied = some wanted → r.edgePath = some true →
      Reconciles originRtspUrl route r
        { route.feedOnline r.nowMs with edgeOfflineSinceMs := none } .notFailed
  | offline (feed : OriginPath) (wanted : EdgePathConfiguration) : r.onlineFeed = some feed →
      edgePathConfigurationOf feed (route.feedOnline r.nowMs) originRtspUrl = some wanted →
      route.applied = some wanted → r.edgePath = some false →
      ((route.feedOnline r.nowMs).failureReported = true ∨
        r.nowMs - route.offlineSince r.nowMs < audioWorkerFailedAfterMs) →
      Reconciles originRtspUrl route r
        { route.feedOnline r.nowMs with
          edgeOfflineSinceMs := some (route.offlineSince r.nowMs) } .notFailed
  | failed (feed : OriginPath) (wanted : EdgePathConfiguration) : r.onlineFeed = some feed →
      edgePathConfigurationOf feed (route.feedOnline r.nowMs) originRtspUrl = some wanted →
      route.applied = some wanted → wanted.runOnInit ≠ none → r.edgePath = some false →
      (route.feedOnline r.nowMs).failureReported = false →
      audioWorkerFailedAfterMs ≤ r.nowMs - route.offlineSince r.nowMs →
      Reconciles originRtspUrl route r
        { route.feedOnline r.nowMs with
          edgeOfflineSinceMs := some (route.offlineSince r.nowMs)
          failureReported := !r.listenerFails }
        (if r.listenerFails then .reportLost else .failureReported)

/-! The instant the edge path is seen offline since is not the feed's to move. -/

@[simp] theorem edgeOfflineSinceMs_feedOnline (nowMs : Instant) :
    (route.feedOnline nowMs).edgeOfflineSinceMs = route.edgeOfflineSinceMs := by
  unfold EdgeRoute.feedOnline
  cases route.feedOfflineSinceMs <;> rfl

@[simp] theorem applied_feedOnline (nowMs : Instant) :
    (route.feedOnline nowMs).applied = route.applied := by
  unfold EdgeRoute.feedOnline
  cases route.feedOfflineSinceMs <;> rfl

theorem workerFailedBy_online (nowMs : Instant) :
    route.workerFailedBy nowMs true = ({ route with edgeOfflineSinceMs := none }, false) := rfl

/-- A worker reported, or not offline for long enough, is not reported. -/
theorem workerFailedBy_waiting {nowMs : Instant}
    (h : route.failureReported = true ∨
      nowMs - route.offlineSince nowMs < audioWorkerFailedAfterMs) :
    route.workerFailedBy nowMs false =
      ({ route with edgeOfflineSinceMs := some (route.offlineSince nowMs) }, false) := by
  unfold EdgeRoute.workerFailedBy
  rw [if_neg (by simp), if_pos]
  · rfl
  · simpa [EdgeRoute.offlineSince] using h

theorem workerFailedBy_failed {nowMs : Instant} (hreported : route.failureReported = false)
    (hlong : audioWorkerFailedAfterMs ≤ nowMs - route.offlineSince nowMs) :
    route.workerFailedBy nowMs false =
      ({ route with
          edgeOfflineSinceMs := some (route.offlineSince nowMs)
          failureReported := true }, true) := by
  unfold EdgeRoute.workerFailedBy
  rw [if_neg (by simp), if_neg]
  · rfl
  · simpa [EdgeRoute.offlineSince, hreported] using hlong

theorem offlineSince_feedOnline (nowMs : Instant) :
    (route.feedOnline nowMs).offlineSince nowMs = route.offlineSince nowMs := by
  unfold EdgeRoute.offlineSince
  rw [edgeOfflineSinceMs_feedOnline]

/-- Every reconciliation does one of these. -/
theorem reconcileRoute_reconciles (originRtspUrl : String) (route : EdgeRoute)
    (r : Reconciliation) :
    Reconciles originRtspUrl route r (reconcileRoute originRtspUrl route r).1
      (reconcileRoute originRtspUrl route r).2 := by
  unfold reconcileRoute
  cases hfeed : r.onlineFeed with
  | none => exact .feedLost hfeed
  | some feed =>
      dsimp only
      cases hwanted : edgePathConfigurationOf feed (route.feedOnline r.nowMs) originRtspUrl with
      | none => exact .unroutable feed hfeed hwanted
      | some wanted =>
          dsimp only
          rw [applied_feedOnline]
          by_cases hwrite : some wanted ≠ route.applied ∨ r.edgePath = none
          · rw [if_pos hwrite]
            cases hfails : r.replaceFails with
            | true => exact .replaceFailed feed wanted hfeed hwanted hwrite hfails
            | false => exact .written feed wanted hfeed hwanted hwrite hfails
          · rw [if_neg hwrite]
            rw [not_or, not_not] at hwrite
            obtain ⟨happlied, hthere⟩ := hwrite
            by_cases hnone : wanted.runOnInit = none
            · rw [if_pos hnone]
              exact .pulled feed wanted hfeed hwanted happlied.symm hnone
            · rw [if_neg hnone]
              cases hedge : r.edgePath with
              | none => exact absurd hedge hthere
              | some edgeOnline =>
                  rw [Option.getD_some]
                  cases edgeOnline with
                  | true => exact .online feed wanted hfeed hwanted happlied.symm hedge
                  | false =>
                      by_cases hwaiting : (route.feedOnline r.nowMs).failureReported = true ∨
                          r.nowMs - route.offlineSince r.nowMs < audioWorkerFailedAfterMs
                      · rw [workerFailedBy_waiting (by rwa [offlineSince_feedOnline]),
                          offlineSince_feedOnline]
                        exact .offline feed wanted hfeed hwanted happlied.symm hedge hwaiting
                      · rw [not_or, Bool.not_eq_true, not_lt] at hwaiting
                        rw [workerFailedBy_failed hwaiting.1
                          (by rw [offlineSince_feedOnline]; exact hwaiting.2),
                          offlineSince_feedOnline]
                        have hmove := Reconciles.failed feed wanted hfeed hwanted happlied.symm
                          hnone hedge hwaiting.1 hwaiting.2
                        cases hlistener : r.listenerFails with
                        | true =>
                            rw [hlistener] at hmove
                            exact hmove
                        | false =>
                            rw [hlistener] at hmove
                            exact hmove

end Moves

end Arthome.Streaming
