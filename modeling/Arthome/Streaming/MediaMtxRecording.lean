import Arthome.Streaming.RecordingRefs

/-!
# Recordings on one stream path

To the media server a recording is the `record` switch of a stream path and the
segments written while it is on; a reference is the path and the instant its start was
asked. All the starts of a date are asked on its run's path, so the instant stands for
the reference. A deletion takes the path's configuration away, which switches `record`
off, then every segment from the reference's start on, less the skew of two clocks: it
reaches whatever else is recorded on that path.

Each call to the provider is its requests, made one by one and interleaved with the
others, the losing ones of a time-out included.
-/

namespace Arthome.Streaming

open Arthome.Core Library

def SEGMENT_START_SKEW_MS : ℤ := 5000

/-- The instant a reference's segments are listed from. -/
def listedFrom (start : Instant) : Instant := start - SEGMENT_START_SKEW_MS

/-- The request a deletion makes next. -/
inductive DeletionStage where
  | configuration
  | listing
  | segments (remaining : List Instant)
  deriving Repr, DecidableEq

/-- A call to delete a reference; `orphan` when the asset did not keep it. -/
structure Deletion where
  ref : Instant
  orphan : Bool
  stage : DeletionStage
  deriving Repr, DecidableEq

/-- The segment the deletion asks next to delete. -/
def Deletion.next (deletion : Deletion) : Option Instant :=
  match deletion.stage with
  | .segments remaining => remaining.head?
  | _ => none

/-- A date's recorder, with its stream path and the calls the media server is to receive. -/
structure RecordedPath where
  recorder : Recorder Instant
  /-- The reference the asset keeps, or last kept. -/
  kept : Option Instant
  /-- The starts called, their request not made yet. -/
  starting : List Instant
  /-- The starts made, to be answered. -/
  started : List Instant
  stopping : List Instant
  deletions : List Deletion
  /-- The path's `record` switch. -/
  record : Bool
  /-- The segments on disk, by their start. -/
  segments : List Instant
  deriving Repr, DecidableEq

/-- A step of the recorder, or one request to the media server. A call is named by its place among
those of its kind. -/
inductive PathStep where
  | recorder (step : RecordingStep Instant)
  /-- The call claimed is made; a start's reference is drawn from the clock. -/
  | called (task : ℕ) (now : Instant)
  | orphanCalled (task : ℕ)
  | startRequested (call : ℕ)
  | stopRequested (call : ℕ)
  | configurationDeleted (call : ℕ)
  | segmentsListed (call : ℕ)
  | segmentDeleted (call : ℕ)
  /-- The media server opens a segment. -/
  | segmentWritten (start : Instant)
  deriving Repr, DecidableEq

namespace RecordedPath

def initial : RecordedPath := ⟨Recorder.initial, none, [], [], [], [], false, []⟩

/-- A start answers the reference it drew, once made. -/
def answers (s : RecordedPath) : RecordingStep Instant → Bool
  | .invoke _ => false
  | .answer _ (.start ref) => ref ∈ s.started
  | .answerLate _ ref => ref ∈ s.started
  | _ => true

/-- The recorder moved, and the reference its asset keeps. -/
def withRecorder (s : RecordedPath) (recorder : Recorder Instant) : RecordedPath :=
  { s with
    recorder
    kept := (recorder.asset.bind fun asset => asset.recordingRef).or s.kept }

/-- The provider is called for the row a call was claimed from. -/
def calledFor (s : RecordedPath) (asked : ReplayAsset Instant) (now : Instant) : RecordedPath :=
  match asked.callDue, asked.recordingRef with
  | some .start, _ => { s with starting := s.starting ++ [now] }
  | some .stop, some ref => { s with stopping := s.stopping ++ [ref] }
  | some .delete, some ref =>
    { s with deletions := s.deletions ++ [⟨ref, false, .configuration⟩] }
  | _, _ => s

def step [RunRules] [ReplayRules] (s : RecordedPath) : PathStep → Option RecordedPath
  | .recorder a =>
    if s.answers a then (s.recorder.step a).map s.withRecorder else none
  | .called task now =>
    match s.recorder.tasks[task]? with
    | some (.claimed asked _) =>
      (s.recorder.step (.invoke task)).map (s.calledFor asked now).withRecorder
    | _ => none
  | .orphanCalled task =>
    match s.recorder.tasks[task]? with
    | some (.orphan ref _) =>
      some { s with deletions := s.deletions ++ [⟨ref, true, .configuration⟩] }
    | _ => none
  | .startRequested call =>
    s.starting[call]?.map fun ref =>
      { s with
        starting := s.starting.eraseIdx call, started := s.started ++ [ref], record := true }
  | .stopRequested call =>
    s.stopping[call]?.map fun _ => { s with stopping := s.stopping.eraseIdx call, record := false }
  | .configurationDeleted call =>
    match s.deletions[call]? with
    | some ⟨ref, orphan, .configuration⟩ =>
      some { s with deletions := s.deletions.set call ⟨ref, orphan, .listing⟩, record := false }
    | _ => none
  | .segmentsListed call =>
    match s.deletions[call]? with
    | some ⟨ref, orphan, .listing⟩ =>
      let remaining := s.segments.filter fun start => listedFrom ref ≤ start
      some { s with deletions := s.deletions.set call ⟨ref, orphan, .segments remaining⟩ }
    | _ => none
  | .segmentDeleted call =>
    match s.deletions[call]? with
    | some ⟨ref, orphan, .segments (start :: remaining)⟩ =>
      some { s with
        deletions := s.deletions.set call ⟨ref, orphan, .segments remaining⟩
        segments := s.segments.filter fun segment => segment ≠ start }
    | _ => none
  | .segmentWritten start =>
    if s.record then some { s with segments := s.segments ++ [start] } else none

/-- A request of a reference's own stop or deletion. -/
def IsOwnOf (s : RecordedPath) (ref : Instant) : PathStep → Prop
  | .stopRequested call => s.stopping[call]? = some ref
  | .configurationDeleted call | .segmentDeleted call =>
    ∃ deletion ∈ s.deletions[call]?, deletion.orphan = false ∧ deletion.ref = ref
  | _ => False

/-- An orphan's deletion takes the configuration away only while no reference is kept or the path
records no more, and asks only for segments from before the reference kept. -/
def SparesKept (s : RecordedPath) : PathStep → Prop
  | .configurationDeleted call => ∀ deletion ∈ s.deletions[call]?, deletion.orphan = true →
      s.kept.isSome → s.record = false
  | .segmentDeleted call => ∀ deletion ∈ s.deletions[call]?, deletion.orphan = true →
      ∀ ref ∈ s.kept, ∀ start ∈ deletion.next, start < listedFrom ref
  | _ => True

/-! ## The calls of the asset are its own -/

/-- The stops and the deletions of the asset are of the reference it kept. -/
structure OwnCalls (s : RecordedPath) : Prop where
  row : ∀ asset ∈ s.recorder.asset, ∀ ref ∈ asset.recordingRef, s.kept = some ref
  asked : ∀ task ∈ s.recorder.tasks, ∀ asked ∈ task.asked, ∀ ref ∈ asked.recordingRef,
    s.kept = some ref
  stopping : ∀ ref ∈ s.stopping, s.kept = some ref
  deletions : ∀ deletion ∈ s.deletions, deletion.orphan = false → s.kept = some deletion.ref
  /-- The reference kept stays on the row, or the row is deleted for good. -/
  kept : ∀ ref ∈ s.kept, ∃ asset ∈ s.recorder.asset,
    asset.recordingRef = some ref ∨ asset.state = .deleted

section OwnCalls

variable [RunRules] [ReplayRules] {s t : RecordedPath} {a : PathStep}

omit [RunRules] [ReplayRules] in
/-- The reference on the row after a transaction is the one kept before, when there was one. -/
theorem OwnCalls.row_ref (h : s.OwnCalls) {row : Option (ReplayAsset Instant)}
    {events : List AssetEvent} (hmove : ReplayAsset.RowMove s.recorder.asset row events)
    {asset : ReplayAsset Instant} (hasset : asset ∈ row) {ref ref' : Instant}
    (href : asset.recordingRef = some ref) (hkept : s.kept = some ref') : ref = ref' := by
  have hback := h.kept ref' hkept
  have hrow := h.row
  generalize s.recorder.asset = before at hmove hback hrow
  cases hmove with
  | same =>
      have hsame := hrow asset hasset ref href
      rw [hkept] at hsame
      exact (Option.some.inj hsame).symm
  | requested => simp at hback
  | moved hmove =>
      rename_i before after
      obtain rfl := Option.some.inj hasset
      have hold : ∀ old, before.recordingRef = some old → old = ref' := by
        intro old hold
        have hsame := hrow before rfl old hold
        rw [hkept] at hsame
        exact (Option.some.inj hsame).symm
      cases hmove with
      | kept hstate hsame => exact hold ref (hsame ▸ href)
      | started started hnone hfrom =>
          simp only [Option.mem_some_iff, exists_eq_left', hnone] at hback
          obtain hback | hback := hback
          · cases hback
          · rw [hback] at hfrom
            simp at hfrom
      | closed hfrom hto hsame => exact hold ref (hsame ▸ href)
      | announced hfrom hto hsame => exact hold ref (hsame ▸ href)
      | deleting hfrom hto hsame => exact hold ref (hsame ▸ href)
      | deleted hdue hto hcleared =>
          rw [hcleared] at href
          cases href
      | failed hdue hto hsame => exact hold ref (hsame ▸ href)

/-- The reference once kept is the one kept after any step of the recorder. -/
theorem OwnCalls.kept_withRecorder (h : s.OwnCalls) {b : RecordingStep Instant}
    {recorder : Recorder Instant} (hstep : s.recorder.step b = some recorder) {ref : Instant}
    (href : s.kept = some ref) : (s.withRecorder recorder).kept = some ref := by
  obtain ⟨events, -, hmove⟩ := Recorder.step_rowMoves hstep
  show (recorder.asset.bind fun asset => asset.recordingRef).or s.kept = some ref
  cases hrow : recorder.asset.bind fun asset => asset.recordingRef with
  | none => rwa [Option.none_or]
  | some ref' =>
      obtain ⟨asset, hasset, hrefRow⟩ := Option.bind_eq_some_iff.mp hrow
      rw [Option.some_or, h.row_ref hmove hasset hrefRow href]

theorem OwnCalls.withRecorder (h : s.OwnCalls) {b : RecordingStep Instant}
    {recorder : Recorder Instant} (hstep : s.recorder.step b = some recorder) :
    (s.withRecorder recorder).OwnCalls := by
  obtain ⟨events, -, hmove⟩ := Recorder.step_rowMoves hstep
  obtain ⟨-, htasks⟩ := Recorder.step_tasksFrom hstep
  have hkept : ∀ ref, s.kept = some ref → (s.withRecorder recorder).kept = some ref :=
    fun ref href => h.kept_withRecorder hstep href
  refine ⟨?_, ?_, fun ref href => hkept ref (h.stopping ref href),
    fun deletion hdeletion hown => hkept _ (h.deletions deletion hdeletion hown), ?_⟩
  · intro asset hasset ref href
    show (recorder.asset.bind fun asset => asset.recordingRef).or s.kept = some ref
    have hrow : (recorder.asset.bind fun asset => asset.recordingRef) = some ref :=
      Option.bind_eq_some_iff.mpr ⟨asset, hasset, href⟩
    rw [hrow, Option.some_or]
  · intro task htask asked hasked ref href
    apply hkept
    obtain hold | ⟨hnew, -⟩ := htasks task htask
    · exact h.asked task hold asked hasked ref href
    · obtain hasset | ⟨old, hold, holdAsked⟩ := hnew asked hasked
      · exact h.row asked hasset ref href
      · exact h.asked old hold asked holdAsked ref href
  · intro ref href
    obtain hrow | ⟨-, hbefore⟩ := Option.or_eq_some_iff.mp (Option.mem_def.mp href)
    · obtain ⟨asset, hasset, hrowRef⟩ := Option.bind_eq_some_iff.mp hrow
      exact ⟨asset, hasset, .inl hrowRef⟩
    · exact hmove.backed (h.kept ref hbefore)

omit [RunRules] [ReplayRules] in
theorem OwnCalls.calledFor (h : s.OwnCalls) {asked : ReplayAsset Instant} (now : Instant)
    (hasked : ∀ ref ∈ asked.recordingRef, s.kept = some ref) :
    (s.calledFor asked now).OwnCalls ∧ (s.calledFor asked now).recorder = s.recorder := by
  unfold RecordedPath.calledFor
  split
  · exact ⟨⟨h.row, h.asked, h.stopping, h.deletions, h.kept⟩, rfl⟩
  · rename_i own _ hown
    refine ⟨⟨h.row, h.asked, fun ref href => ?_, h.deletions, h.kept⟩, rfl⟩
    obtain href | href := List.mem_append.mp href
    · exact h.stopping ref href
    · rw [List.mem_singleton.mp href]
      exact hasked own hown
  · rename_i own _ hown
    refine ⟨⟨h.row, h.asked, h.stopping, fun deletion hdeletion hnot => ?_, h.kept⟩, rfl⟩
    obtain hdeletion | hdeletion := List.mem_append.mp hdeletion
    · exact h.deletions deletion hdeletion hnot
    · rw [List.mem_singleton.mp hdeletion]
      exact hasked own hown
  · exact ⟨h, rfl⟩

omit [RunRules] [ReplayRules] in
/-- A deletion that goes on is still of the same reference. -/
theorem OwnCalls.set (h : s.OwnCalls) {call : ℕ} {deletion later : Deletion}
    (hget : s.deletions[call]? = some deletion) (hsame : later.ref = deletion.ref)
    (horphan : later.orphan = deletion.orphan) :
    ∀ other ∈ s.deletions.set call later, other.orphan = false → s.kept = some other.ref := by
  intro other hother hown
  obtain hother | rfl := List.mem_or_eq_of_mem_set hother
  · exact h.deletions other hother hown
  · rw [hsame]
    exact h.deletions deletion (List.mem_of_getElem? hget) (horphan ▸ hown)

theorem OwnCalls.step (h : s.OwnCalls) (hstep : s.step a = some t) : t.OwnCalls := by
  cases a with
  | recorder b =>
      simp only [RecordedPath.step] at hstep
      split_ifs at hstep
      obtain ⟨recorder, hrecorder, rfl⟩ := Option.map_eq_some_iff.mp hstep
      exact h.withRecorder hrecorder
  | called task now =>
      simp only [RecordedPath.step] at hstep
      split at hstep
      · rename_i asked attempt hget
        obtain ⟨recorder, hrecorder, rfl⟩ := Option.map_eq_some_iff.mp hstep
        obtain ⟨hcalled, hsame⟩ := h.calledFor now
          fun ref href => h.asked _ (List.mem_of_getElem? hget) asked rfl ref href
        apply hcalled.withRecorder (b := .invoke task)
        rw [hsame]
        exact hrecorder
      · cases hstep
  | orphanCalled task =>
      simp only [RecordedPath.step] at hstep
      split at hstep
      · obtain rfl := Option.some.inj hstep
        refine ⟨h.row, h.asked, h.stopping, fun deletion hdeletion hown => ?_, h.kept⟩
        obtain hdeletion | hdeletion := List.mem_append.mp hdeletion
        · exact h.deletions deletion hdeletion hown
        · rw [List.mem_singleton.mp hdeletion] at hown
          cases hown
      · cases hstep
  | startRequested call =>
      obtain ⟨ref, -, rfl⟩ := Option.map_eq_some_iff.mp hstep
      exact ⟨h.row, h.asked, h.stopping, h.deletions, h.kept⟩
  | stopRequested call =>
      obtain ⟨ref, -, rfl⟩ := Option.map_eq_some_iff.mp hstep
      exact ⟨h.row, h.asked, fun ref href => h.stopping ref (List.mem_of_mem_eraseIdx href),
        h.deletions, h.kept⟩
  | configurationDeleted call | segmentsListed call | segmentDeleted call =>
      simp only [RecordedPath.step] at hstep
      split at hstep
      · rename_i hget
        obtain rfl := Option.some.inj hstep
        exact ⟨h.row, h.asked, h.stopping, h.set hget rfl rfl, h.kept⟩
      · cases hstep
  | segmentWritten start =>
      simp only [RecordedPath.step] at hstep
      split_ifs at hstep
      obtain rfl := Option.some.inj hstep
      exact ⟨h.row, h.asked, h.stopping, h.deletions, h.kept⟩

theorem ownCalls_of_reaches {guard : RecordedPath → PathStep → Prop}
    (h : Reaches guard RecordedPath.step initial s) : s.OwnCalls := by
  apply h.invariant
  · constructor <;> simp [initial, Recorder.initial]
  · exact fun v a w hv _ hstep => hv.step hstep

end OwnCalls

/-! ## What an orphan's deletion spares -/

section Kept

variable [RunRules] [ReplayRules] {s t : RecordedPath} {a : PathStep} {ref : Instant}

omit [RunRules] [ReplayRules] in
/-- A call made asks nothing of the media server yet. -/
theorem calledFor_path (s : RecordedPath) (asked : ReplayAsset Instant) (now : Instant) :
    (s.calledFor asked now).kept = s.kept ∧ (s.calledFor asked now).record = s.record ∧
      (s.calledFor asked now).segments = s.segments := by
  unfold calledFor
  split
  · exact ⟨rfl, rfl, rfl⟩
  · exact ⟨rfl, rfl, rfl⟩
  · exact ⟨rfl, rfl, rfl⟩
  · exact ⟨rfl, rfl, rfl⟩

/-- The reference once kept is the one kept ever after. -/
theorem kept_step (h : s.OwnCalls) (hkept : s.kept = some ref) (hstep : s.step a = some t) :
    t.kept = some ref := by
  cases a with
  | recorder b =>
      simp only [step] at hstep
      split_ifs at hstep
      obtain ⟨recorder, hrecorder, rfl⟩ := Option.map_eq_some_iff.mp hstep
      exact h.kept_withRecorder hrecorder hkept
  | called task now =>
      simp only [step] at hstep
      split at hstep
      · rename_i asked attempt hget
        obtain ⟨recorder, hrecorder, rfl⟩ := Option.map_eq_some_iff.mp hstep
        obtain ⟨hcalled, hsame⟩ := h.calledFor now
          fun ref href => h.asked _ (List.mem_of_getElem? hget) asked rfl ref href
        apply hcalled.kept_withRecorder (b := .invoke task)
        · rw [hsame]
          exact hrecorder
        · rw [(calledFor_path s asked now).1]
          exact hkept
      · cases hstep
  | startRequested call | stopRequested call =>
      obtain ⟨ref, -, rfl⟩ := Option.map_eq_some_iff.mp hstep
      exact hkept
  | orphanCalled call | configurationDeleted call | segmentsListed call | segmentDeleted call =>
      simp only [step] at hstep
      split at hstep
      · obtain rfl := Option.some.inj hstep
        exact hkept
      · cases hstep
  | segmentWritten start =>
      simp only [step] at hstep
      split_ifs at hstep
      obtain rfl := Option.some.inj hstep
      exact hkept

/-- The recording of a reference goes on, and its segments stay. -/
def Stands (ref : Instant) (s t : RecordedPath) : Prop :=
  (s.record = true → t.record = true) ∧
    ∀ start ∈ s.segments, listedFrom ref ≤ start → start ∈ t.segments

omit [RunRules] [ReplayRules] in
theorem stands_of_path (hrecord : t.record = s.record) (hsegments : t.segments = s.segments) :
    Stands ref s t :=
  ⟨fun h => hrecord ▸ h, fun _ hstart _ => hsegments ▸ hstart⟩

omit [RunRules] [ReplayRules] in
/-- A deletion of the asset's own is of the reference kept. -/
theorem OwnCalls.orphan_of_not_own (h : s.OwnCalls) (hkept : s.kept = some ref) {call : ℕ}
    {deletion : Deletion} (hget : s.deletions[call]? = some deletion)
    (hown : ¬ ∃ deletion ∈ s.deletions[call]?, deletion.orphan = false ∧ deletion.ref = ref) :
    deletion.orphan = true := by
  by_contra horphan
  rw [Bool.not_eq_true] at horphan
  have hsame := h.deletions deletion (List.mem_of_getElem? hget) horphan
  rw [hkept, Option.some.injEq] at hsame
  exact hown ⟨deletion, hget, horphan, hsame.symm⟩

/-- A step that spares the reference kept, and is no request of its own, leaves its recording. -/
theorem stands_step (h : s.OwnCalls) (hkept : s.kept = some ref) (hspares : s.SparesKept a)
    (hown : ¬ s.IsOwnOf ref a) (hstep : s.step a = some t) : Stands ref s t := by
  cases a with
  | recorder b =>
      simp only [step] at hstep
      split_ifs at hstep
      obtain ⟨recorder, -, rfl⟩ := Option.map_eq_some_iff.mp hstep
      exact stands_of_path rfl rfl
  | called task now =>
      simp only [step] at hstep
      split at hstep
      · rename_i asked attempt hget
        obtain ⟨recorder, -, rfl⟩ := Option.map_eq_some_iff.mp hstep
        obtain ⟨-, hrecord, hsegments⟩ := calledFor_path s asked now
        exact stands_of_path hrecord hsegments
      · cases hstep
  | orphanCalled task =>
      simp only [step] at hstep
      split at hstep
      · obtain rfl := Option.some.inj hstep
        exact stands_of_path rfl rfl
      · cases hstep
  | startRequested call =>
      obtain ⟨started, -, rfl⟩ := Option.map_eq_some_iff.mp hstep
      exact ⟨fun _ => rfl, fun start hstart _ => hstart⟩
  | stopRequested call =>
      obtain ⟨stopped, hget, rfl⟩ := Option.map_eq_some_iff.mp hstep
      have hsame := h.stopping stopped (List.mem_of_getElem? hget)
      rw [hkept, Option.some.injEq] at hsame
      exact absurd (hsame ▸ hget) hown
  | configurationDeleted call =>
      simp only [step] at hstep
      split at hstep
      · rename_i hget
        obtain rfl := Option.some.inj hstep
        have horphan := h.orphan_of_not_own hkept hget hown
        have hrecord := hspares _ hget horphan (by rw [hkept]; rfl)
        refine ⟨fun hon => ?_, fun start hstart _ => hstart⟩
        rw [hrecord] at hon
        cases hon
      · cases hstep
  | segmentsListed call =>
      simp only [step] at hstep
      split at hstep
      · obtain rfl := Option.some.inj hstep
        exact stands_of_path rfl rfl
      · cases hstep
  | segmentDeleted call =>
      simp only [step] at hstep
      split at hstep
      · rename_i hget
        obtain rfl := Option.some.inj hstep
        have horphan := h.orphan_of_not_own hkept hget hown
        have hbefore := hspares _ hget horphan ref hkept _ rfl
        refine ⟨id, fun start hstart hfrom => List.mem_filter.mpr ⟨hstart, ?_⟩⟩
        simp only [decide_eq_true_eq, ne_eq]
        rintro rfl
        exact absurd hbefore (not_lt.mpr hfrom)
      · cases hstep
  | segmentWritten written =>
      simp only [step] at hstep
      split_ifs at hstep
      obtain rfl := Option.some.inj hstep
      exact ⟨id, fun start hstart _ => List.mem_append_left _ hstart⟩

end Kept

/-! ## The late start's deletion -/

instance (s : RecordedPath) (ref : Instant) : ∀ a, Decidable (s.IsOwnOf ref a)
  | .stopRequested call => inferInstanceAs (Decidable (s.stopping[call]? = some ref))
  | .configurationDeleted call | .segmentDeleted call =>
    inferInstanceAs (Decidable (∃ deletion ∈ s.deletions[call]?, _ ∧ _))
  | .recorder _ | .called _ _ | .orphanCalled _ | .startRequested _ | .segmentsListed _
  | .segmentWritten _ => inferInstanceAs (Decidable False)

instance (s : RecordedPath) : ∀ a, Decidable (s.SparesKept a)
  | .configurationDeleted call => inferInstanceAs (Decidable (∀ deletion ∈ s.deletions[call]?,
      deletion.orphan = true → s.kept.isSome → s.record = false))
  | .segmentDeleted call => inferInstanceAs (Decidable (∀ deletion ∈ s.deletions[call]?,
      deletion.orphan = true → ∀ ref ∈ s.kept, ∀ start ∈ deletion.next, start < listedFrom ref))
  | .recorder _ | .called _ _ | .orphanCalled _ | .startRequested _ | .stopRequested _
  | .segmentsListed _ | .segmentWritten _ => inferInstanceAs (Decidable True)

section Sample

open Arthome.Core.Sample

/-- A start made and not answered in time, a second one made and kept. -/
def sampleTwoStarts : List PathStep :=
  let facts : Option AssetDateFacts := some ⟨some ⟨0, 60, 30, .included, 48⟩, none⟩
  [.recorder (.request 1 2 10 facts), .recorder (.claim 20 0), .called 0 100, .startRequested 0,
    .recorder (.timeOut 0), .recorder (.claim 5100 0), .called 1 5200, .startRequested 0,
    .recorder (.answer 1 (.start 5200)), .recorder (.settle 1 facts none 5300 .committed),
    .segmentWritten 6000]

/-- The first start answers at last, and is deleted. -/
def sampleLateDeletion : List PathStep :=
  [.recorder (.answerLate 0 100), .orphanCalled 0, .configurationDeleted 0, .segmentsListed 0,
    .segmentDeleted 0]

end Sample

end RecordedPath

end Arthome.Streaming
