import Arthome.Library.Presence
import Arthome.Streaming.RunLifecycle

/-!
# The presence of a run's feed

The listener's conditional statements keep a presence register, as long as the
run is not ended and an interrupted one may go back on air: the run's two
presence columns move as the register does, whatever else the report lifts. So
what the register says of late and repeated reports is said of the run.
-/

namespace Arthome.Streaming

open Arthome.Core Library

/-- One delivery of a report to the listener. -/
inductive FeedReport where
  | publisherOnline (protocol : IngestProtocol) (onset : Instant)
  | publisherOffline (onlineSince lostAt : Instant)
  deriving Repr, DecidableEq

/-- The report without the protocol it was read on. -/
def FeedReport.report : FeedReport → Report Instant
  | .publisherOnline _ onset => .online onset
  | .publisherOffline onlineSince lostAt => .offline onlineSince lostAt

namespace Run

def presence (run : Run) : Presence Instant :=
  ⟨run.current.publisherOnlineSince, run.current.publisherLostAt⟩

/-- Not ended, and free to go back on air when interrupted. -/
structure Receives (run : Run) : Prop where
  live : run.current.state ≠ .ended
  resumes : run.current.state = .interrupted → run.current.technicalCheckPassed = true

variable [RunRules] {run : Run} {now : Instant}

/-- The listener told of one report. -/
def hear (monitorPaths : List MonitorPath) (run : Run) : FeedReport → Run
  | .publisherOnline protocol onset => (run.publisherOnline monitorPaths protocol onset).state
  | .publisherOffline onlineSince lostAt => (run.publisherOffline onlineSince lostAt).state

def hearAll (monitorPaths : List MonitorPath) (run : Run) (reports : List FeedReport) : Run :=
  reports.foldl (hear monitorPaths) run

omit [RunRules] in
@[simp] theorem presence_applyStateChanged : (run.applyStateChanged now).presence = run.presence :=
  rfl

omit [RunRules] in
@[simp] theorem receives_record (event : RunEvent) :
    (run.record event).Receives ↔ run.Receives :=
  ⟨fun h => ⟨h.live, h.resumes⟩, fun h => ⟨h.live, h.resumes⟩⟩

omit [RunRules] in
@[simp] theorem receives_ite_applyStateChanged (p : Prop) [Decidable p] :
    (if p then run.applyStateChanged now else run).Receives ↔ run.Receives := by
  split_ifs
  · exact receives_record _
  · rfl

theorem resolve_presence {incident : IncidentSnapshot} {actor : RunActor} {cleared : Bool} :
    (run.resolve incident actor cleared now).state.presence = run.presence := by
  unfold resolve
  obtain ⟨e, -, hguard⟩ | ⟨u, -, hguard⟩ := Reply.guard_cases run
    (if run.current.state = .interrupted then run.assertTransition .onAir else .ok ()) _
  · rw [hguard]
    rfl
  · rw [hguard, Reply.answer_state]
    split_ifs <;> rfl

theorem publisherBack_keepsPresence (wasAfterGracePeriod : Bool) :
    (run.publisherBack wasAfterGracePeriod now).state.presence = run.presence := by
  unfold publisherBack
  split
  · split_ifs
    · exact resolve_presence
    · rfl
    · rfl
  · split_ifs <;> rfl

variable [LawfulRunRules]

/-- A run that receives its feed is never refused its return, and goes on receiving. -/
theorem resolve_of_receives (h : run.Receives) {incident : IncidentSnapshot} {actor : RunActor}
    {cleared : Bool} : (run.resolve incident actor cleared now).result = .ok () ∧
      (run.resolve incident actor cleared now).state.Receives := by
  have hmay : (if run.current.state = .interrupted then run.assertTransition .onAir else .ok ()) =
      .ok () := by
    split_ifs with hinterrupted
    · rw [assertTransition, hinterrupted, h.resumes hinterrupted]
      exact LawfulRunRules.interrupted_resumes
    · rfl
  unfold resolve
  simp only [hmay, Reply.guard_ok, Reply.answer_result, Reply.answer_state, true_and,
    receives_ite_applyStateChanged, receives_record]
  refine ⟨?_, ?_⟩
  · simp only
    split_ifs
    · simp
    · exact h.live
  · simp only
    split_ifs with hinterrupted
    · simp
    · exact fun hsame => absurd hsame hinterrupted

theorem publisherBack_of_receives (h : run.Receives) (wasAfterGracePeriod : Bool) :
    (run.publisherBack wasAfterGracePeriod now).result = .ok () ∧
      (run.publisherBack wasAfterGracePeriod now).state.Receives := by
  unfold publisherBack
  split
  · split_ifs
    · exact resolve_of_receives h
    · exact ⟨rfl, h.live, h.resumes⟩
    · exact ⟨rfl, h⟩
  · split_ifs
    · exact ⟨rfl, h.live, h.resumes⟩
    · exact ⟨rfl, h⟩

/-- The listener moves the presence columns as the register moves, and the run goes on receiving. -/
theorem hear_presence (h : run.Receives) (monitorPaths : List MonitorPath) (report : FeedReport) :
    (run.hear monitorPaths report).presence = run.presence.told report.report ∧
      (run.hear monitorPaths report).Receives := by
  cases report with
  | publisherOnline protocol onset =>
      simp only [hear, publisherOnline, FeedReport.report, Presence.told, Presence.online]
      have haccepts : AcceptsOnset run.current onset ↔
          ∀ lostAt ∈ run.presence.lostAt, lostAt ≤ onset := and_iff_right h.live
      have hback : ((run.recordOnset protocol (monitorPathOf protocol monitorPaths)
          onset).restored).Receives := ⟨h.live, h.resumes⟩
      have hanswer : (Run.publisherBack _ run.current.afterGracePeriod onset).result = .ok () ∧
          (Run.publisherBack _ run.current.afterGracePeriod onset).state.Receives :=
        publisherBack_of_receives hback _
      obtain ⟨hok, hreceives⟩ := hanswer
      by_cases hreported : run.current.publisherOnlineSince = some onset
      · rw [if_pos hreported, if_pos (show run.presence.onlineSince = some onset from hreported)]
        exact ⟨rfl, h⟩
      · rw [if_neg hreported, if_neg (show run.presence.onlineSince ≠ some onset from hreported)]
        by_cases hlate : AcceptsOnset run.current onset
        · rw [if_pos hlate, if_pos (haccepts.mp hlate), hok]
          exact ⟨publisherBack_keepsPresence _, hreceives⟩
        · rw [if_neg hlate, if_neg (fun hnot => hlate (haccepts.mpr hnot))]
          exact ⟨rfl, h⟩
  | publisherOffline onlineSince lostAt =>
      simp only [hear, publisherOffline, FeedReport.report, Presence.told, Presence.offline]
      by_cases hshown : run.current.publisherOnlineSince = some onlineSince
      · rw [if_pos hshown, if_pos (show run.presence.onlineSince = some onlineSince from hshown)]
        exact ⟨rfl, h.live, h.resumes⟩
      · rw [if_neg hshown, if_neg (show run.presence.onlineSince ≠ some onlineSince from hshown)]
        exact ⟨rfl, h⟩

theorem hearAll_presence (h : run.Receives) (monitorPaths : List MonitorPath)
    (reports : List FeedReport) :
    (run.hearAll monitorPaths reports).presence =
      run.presence.toldAll (reports.map FeedReport.report) := by
  induction reports generalizing run with
  | nil => rfl
  | cons report reports ih =>
      obtain ⟨hpresence, hreceives⟩ := hear_presence h monitorPaths report
      rw [List.map_cons, Presence.toldAll_cons, ← hpresence]
      exact ih hreceives

/-- Every run receives its feed until it ends. -/
theorem Reachable.receives (h : run.Reachable) (hlive : run.current.state ≠ .ended) :
    run.Receives := by
  obtain ⟨now, hkept⟩ := h.lifecycle
  exact ⟨hlive, fun hinterrupted => hkept.live (.inr hinterrupted)⟩

end Run

/-! ## Late and repeated reports -/

section Convergence

variable [RunRules]

/-- The last loss is delivered while the run shows the onset it names, and the onset of the life
still on is delivered after it. -/
def DeliversLastLoss (monitorPaths : List MonitorPath) (run : Run) (lives : List (Life Instant))
    (still : Option Instant) (deliveries : List FeedReport) : Prop :=
  ∀ last ∈ lives.getLast?, ∃ before after,
    deliveries = before ++ .publisherOffline last.onset last.loss :: after ∧
      (run.hearAll monitorPaths before).current.publisherOnlineSince = some last.onset ∧
      ∀ onset ∈ still, ∃ protocol, .publisherOnline protocol onset ∈ after

omit [RunRules] in
theorem FeedReport.eq_offline {delivery : FeedReport} {onlineSince lostAt : Instant}
    (h : delivery.report = .offline onlineSince lostAt) :
    delivery = .publisherOffline onlineSince lostAt := by
  cases delivery with
  | publisherOnline => cases h
  | publisherOffline onset loss =>
      obtain ⟨rfl, rfl⟩ := Report.offline.inj h
      rfl

omit [RunRules] in
theorem online_mem_map_report {deliveries : List FeedReport} {onset : Instant} :
    .online onset ∈ deliveries.map FeedReport.report ↔
      ∃ protocol, .publisherOnline protocol onset ∈ deliveries := by
  constructor
  · intro h
    obtain ⟨delivery, hdelivery, hreport⟩ := List.mem_map.mp h
    cases delivery with
    | publisherOffline => cases hreport
    | publisherOnline protocol told =>
        rw [← Report.online.inj hreport]
        exact ⟨protocol, hdelivery⟩
  · rintro ⟨protocol, hdelivery⟩
    exact List.mem_map_of_mem (f := FeedReport.report) hdelivery

variable [LawfulRunRules] {run : Run}

theorem lastLossLands_iff (h : run.Receives) (hunseen : run.presence = .unseen)
    (monitorPaths : List MonitorPath) {lives : List (Life Instant)} {still : Option Instant}
    {deliveries : List FeedReport} :
    LastLossLands lives still (deliveries.map FeedReport.report) ↔
      DeliversLastLoss monitorPaths run lives still deliveries := by
  have hshown : ∀ before, (run.hearAll monitorPaths before).current.publisherOnlineSince =
      (Presence.unseen.toldAll (before.map FeedReport.report)).onlineSince := by
    intro before
    rw [← hunseen, ← Run.hearAll_presence h monitorPaths before]
    rfl
  constructor
  · intro hlands last hlast
    obtain ⟨before, after, hsplit, hbefore, hstill⟩ := hlands last hlast
    obtain ⟨first, rest, rfl, rfl, hrest⟩ := List.map_eq_append_iff.mp hsplit
    obtain ⟨delivery, later, rfl, hdelivery, rfl⟩ := List.map_eq_cons_iff.mp hrest
    obtain rfl := FeedReport.eq_offline hdelivery
    refine ⟨first, later, rfl, ?_, fun onset honset => online_mem_map_report.mp (hstill onset honset)⟩
    rw [hshown, hbefore]
  · intro hdelivers last hlast
    obtain ⟨before, after, rfl, hbefore, hstill⟩ := hdelivers last hlast
    refine ⟨before.map FeedReport.report, after.map FeedReport.report, by simp [FeedReport.report],
      ?_, fun onset honset => online_mem_map_report.mpr (hstill onset honset)⟩
    rw [← hshown, hbefore]

/-- A run with no feed yet, told of its feed's lives. Delivered each report once in the order it
happened, it shows the life still on and the last loss; delivered each at least once, in any order,
it ends there exactly when the last loss is delivered while its onset is shown and the onset still
on after it. -/
theorem feed_presence_converges (hreachable : run.Reachable) (hlive : run.current.state ≠ .ended)
    (hunseen : run.presence = .unseen) (monitorPaths : List MonitorPath)
    (lives : List (Life Instant)) (still : Option Instant) (hlived : Lived lives still)
    (inOrder deliveries : List FeedReport)
    (hinOrder : inOrder.map FeedReport.report = reportsOf lives still)
    (hdeliveries : ∀ report,
      report ∈ deliveries.map FeedReport.report ↔ report ∈ reportsOf lives still) :
    (run.hearAll monitorPaths inOrder).presence = ⟨still, lastLoss lives⟩ ∧
      ((run.hearAll monitorPaths deliveries).presence =
          (run.hearAll monitorPaths inOrder).presence ↔
        DeliversLastLoss monitorPaths run lives still deliveries) := by
  have hreceives := hreachable.receives hlive
  have hordered : (run.hearAll monitorPaths inOrder).presence =
      Presence.unseen.toldAll (reportsOf lives still) := by
    rw [Run.hearAll_presence hreceives, hunseen, hinOrder]
  refine ⟨?_, ?_⟩
  · rw [hordered, toldAll_reportsOf hlived]
  · rw [hordered, Run.hearAll_presence hreceives, hunseen, toldAll_eq_inOrder_iff hlived hdeliveries,
      lastLossLands_iff hreceives hunseen monitorPaths]

end Convergence

section Sample

open Arthome.Core.Sample

/-- A second life's onset told before the first one's leaves the run shown lost while the second
life is on; a loss told before its onset leaves it shown online once the life is over. -/
theorem presence_left_by_late_reports :
    let run := Run.prepare ⟨1, 2, 3, "path"⟩ 0
    let on := FeedReport.publisherOnline .srt 100
    let off := FeedReport.publisherOffline 100 200
    let again := FeedReport.publisherOnline .srt 300
    (run.hearAll [] [on, off, again]).presence = ⟨some 300, some 200⟩ ∧
      (run.hearAll [] [again, on, off]).presence = ⟨none, some 200⟩ ∧
      (run.hearAll [] [on, off]).presence = ⟨none, some 200⟩ ∧
      (run.hearAll [] [off, on]).presence = ⟨some 100, none⟩ := by decide

theorem feed_presence_converges_sample :
    ((Run.prepare ⟨1, 2, 3, "path"⟩ 0).hearAll [] [.publisherOnline .srt 100,
      .publisherOffline 100 200, .publisherOnline .srt 300, .publisherOffline 100 200]).presence =
    ((Run.prepare ⟨1, 2, 3, "path"⟩ 0).hearAll [] [.publisherOnline .srt 100,
      .publisherOffline 100 200, .publisherOnline .srt 300]).presence := by
  have hlived : Lived [⟨100, 200⟩] (some (300 : Instant)) :=
    ⟨by simp, by simp, by simp⟩
  have hreachable : (Run.prepare ⟨1, 2, 3, "path"⟩ 0).Reachable :=
    ⟨⟨1, 2, 3, "path"⟩, 0, [], by simp, rfl⟩
  refine (feed_presence_converges hreachable (by decide) rfl [] [⟨100, 200⟩] (some 300) hlived
    [.publisherOnline .srt 100, .publisherOffline 100 200, .publisherOnline .srt 300]
    [.publisherOnline .srt 100, .publisherOffline 100 200, .publisherOnline .srt 300,
      .publisherOffline 100 200] (by decide) ?_).2.mpr ?_
  · intro report
    simp [FeedReport.report, reportsOf]
    tauto
  · intro last hlast
    obtain rfl : (⟨100, 200⟩ : Life Instant) = last := by simpa using hlast
    refine ⟨[.publisherOnline .srt 100], [.publisherOnline .srt 300, .publisherOffline 100 200],
      rfl, by decide, ?_⟩
    intro onset honset
    obtain rfl := Option.some.inj honset
    exact ⟨.srt, by simp⟩

end Sample

end Arthome.Streaming
