import Arthome.Streaming.ReplayAnnouncements

/-!
# Where a recording's reference is

A reference the provider answered is kept on the asset, deleted at the provider,
recorded as an orphan, or still in some replica's hands. The settlement of a call
compares the call due with the one answered, not the reference it was made for: a
delete made when the asset had none, and settled once a late start has been kept and
stopped, clears a reference nobody deleted. Every other step keeps the account.
-/

namespace Arthome.Streaming

open Arthome.Core Library

namespace RecordingTask

variable {ρ : Type}

/-- The reference of a recording started, in the hands of the task. -/
def Holds (ref : ρ) : RecordingTask ρ → Prop
  | .answered _ _ (.start started) => started = ref
  | .orphan started _ => started = ref
  | _ => False

/-- A delete answered with no reference to make it for. -/
def isBlindDelete : RecordingTask ρ → Bool
  | .answered asked _ .delete => asked.recordingRef.isNone
  | _ => false

/-- The row the task's call was claimed from. -/
def asked : RecordingTask ρ → Option (ReplayAsset ρ)
  | .claimed asked _ | .called asked _ | .answered asked _ _ | .refused asked _ => some asked
  | .startingLate | .orphan _ _ => none

end RecordingTask

namespace ReplayAsset

variable {ρ : Type} [RunRules] [ReplayRules] {asset after : ReplayAsset ρ}
  {events : List AssetEvent} {now : Instant}

omit [RunRules] [ReplayRules] in
theorem close_ref {runEndedAt : Option Instant} (h : asset.close runEndedAt = some after) :
    after.recordingRef = asset.recordingRef := by
  unfold close at h
  split_ifs at h
  rw [← Option.some.inj h]
  rfl

omit [RunRules] in
theorem withdrawOne_ref {outcome : Option DateOutcome}
    (h : asset.withdrawOne outcome now = some (after, events)) :
    after.recordingRef = asset.recordingRef := by
  unfold withdrawOne at h
  split_ifs at h
  rw [Option.some.injEq, Prod.mk.injEq] at h
  rw [← h.1]
  rfl

omit [ReplayRules] in
theorem expireOne_ref (h : asset.expireOne now = some (after, events)) :
    after.recordingRef = asset.recordingRef := by
  unfold expireOne at h
  split_ifs at h
  rw [Option.some.injEq, Prod.mk.injEq] at h
  rw [← h.1]
  rfl

omit [RunRules] [ReplayRules] in
theorem giveUp_ref {call : RecordingCall} (h : asset.giveUp call now = some after) :
    after.recordingRef = asset.recordingRef := by
  unfold giveUp at h
  split_ifs at h
  rw [← Option.some.inj h]

theorem settleStatus_ref {status : RecordingStatus} {facts : Option AssetDateFacts}
    {runEndedAt : Option Instant}
    (h : asset.settleStatus status facts runEndedAt now = .ok (after, events)) :
    after.recordingRef = asset.recordingRef := by
  unfold settleStatus at h
  split at h
  · split at h
    · split at h
      · rw [Except.ok.injEq, Prod.mk.injEq] at h
        rw [← h.1]
        rfl
      · rw [Except.ok.injEq, Prod.mk.injEq] at h
        rw [← h.1]
        rfl
    · cases h
  · simp only at h
    split_ifs at h
    rw [Except.ok.injEq, Prod.mk.injEq] at h
    rw [← h.1]

/-- A row that has a reference keeps it, or its deletion was due and answered. -/
theorem settle_ref {row : Option (ReplayAsset ρ)} {result : CallResult ρ}
    {facts : Option AssetDateFacts} {runEndedAt : Option Instant} {outcome : Settled ρ}
    (h : settle row result facts runEndedAt now = .ok outcome) {before : ReplayAsset ρ} {ref : ρ}
    (hrow : row = some before) (href : before.recordingRef = some ref) :
    (∃ after ∈ outcome.asset, after.recordingRef = some ref) ∨
      result = .delete ∧ before.callDue = some .delete := by
  cases result with
  | start started =>
      rw [← Except.ok.inj h, hrow]
      left
      simp [settleStart, href]
  | stop =>
      obtain rfl | ⟨owing, written, howing, -, hwrite, rfl⟩ := ifOwed_cases h
      · exact .inl ⟨before, hrow, href⟩
      · rw [← Except.ok.inj hwrite]
        obtain rfl := Option.some.inj (hrow.symm.trans howing)
        exact .inl ⟨_, rfl, href⟩
  | delete =>
      obtain rfl | ⟨owing, written, howing, hdue, -, -⟩ := ifOwed_cases h
      · exact .inl ⟨before, hrow, href⟩
      · obtain rfl := Option.some.inj (hrow.symm.trans howing)
        exact .inr ⟨rfl, hdue⟩
  | status status =>
      obtain rfl | ⟨owing, written, howing, -, hwrite, rfl⟩ := ifOwed_cases h
      · exact .inl ⟨before, hrow, href⟩
      · obtain rfl := Option.some.inj (hrow.symm.trans howing)
        exact .inl ⟨_, rfl, (settleStatus_ref hwrite).trans href⟩

omit [RunRules] [ReplayRules] in
/-- A start's reference is kept, or is nobody's. -/
theorem settleStart_ref (row : Option (ReplayAsset ρ)) (ref : ρ) :
    (∃ after ∈ (settleStart row ref).1, after.recordingRef = some ref) ∨
      (settleStart row ref).2 = some ref := by
  unfold settleStart
  cases row with
  | none => exact .inr rfl
  | some asset =>
      simp only
      split_ifs
      · exact .inl ⟨_, rfl, rfl⟩
      · exact .inr rfl

omit [RunRules] [ReplayRules] in
/-- A reference once on the row stays, or the row is deleted for good. -/
theorem RowMove.backed {row row' : Option (ReplayAsset ρ)} {published : List AssetEvent}
    (h : RowMove row row' published) {ref : ρ}
    (hback : ∃ asset ∈ row, asset.recordingRef = some ref ∨ asset.state = .deleted) :
    ∃ asset ∈ row', asset.recordingRef = some ref ∨ asset.state = .deleted := by
  cases h with
  | same => exact hback
  | requested => simp at hback
  | moved hmove =>
      rename_i before after
      simp only [Option.mem_some_iff, exists_eq_left'] at hback ⊢
      obtain href | hdeleted := hback
      · cases hmove with
        | kept hstate hkept => exact .inl (hkept.trans href)
        | started started hnone => simp [hnone] at href
        | closed hfrom hto hkept => exact .inl (hkept.trans href)
        | announced hfrom hto hkept => exact .inl (hkept.trans href)
        | deleting hfrom hto hkept => exact .inl (hkept.trans href)
        | deleted hdue hto => exact .inr hto
        | failed hdue hto hkept => exact .inl (hkept.trans href)
      · obtain hstate | hforward := hmove.forward
        · exact .inr (hstate.trans hdeleted)
        · simp [hdeleted, assetStatesAfter] at hforward

end ReplayAsset

namespace Recorder

variable {ρ : Type} {s t : Recorder ρ}

/-- Where a reference is accounted for. -/
def AccountsFor (s : Recorder ρ) (ref : ρ) : Prop :=
  (∃ asset ∈ s.asset, asset.recordingRef = some ref) ∨ ref ∈ s.deleted ∨ ref ∈ s.orphans ∨
    ∃ task ∈ s.tasks, task.Holds ref

/-- A delete made without a reference is not settled on a row whose reference is to be deleted. -/
def KeepsRef (s : Recorder ρ) : RecordingStep ρ → Prop
  | .settle task _ _ _ commitment =>
    ∀ done ∈ s.tasks[task]?, done.isBlindDelete = true → commitment ≠ .rolledBack →
      ∀ asset ∈ s.asset, asset.callDue = some .delete → asset.recordingRef = none
  | _ => True

/-- The references of the rows the tasks were claimed from are the asset's, and those of the deletes
answered were deleted. -/
structure Backed (s : Recorder ρ) : Prop where
  row : ∀ task ∈ s.tasks, ∀ asked ∈ task.asked, ∀ ref ∈ asked.recordingRef,
    ∃ asset ∈ s.asset, asset.recordingRef = some ref ∨ asset.state = .deleted
  deleted : ∀ asked attempt, .answered asked attempt .delete ∈ s.tasks →
    ∀ ref ∈ asked.recordingRef, ref ∈ s.deleted

/-- What one step does to the ledger and to the references in the hands of its tasks. -/
structure Keeps (s t : Recorder ρ) : Prop where
  answered : ∀ ref ∈ t.answered, ref ∈ s.answered ∨ t.AccountsFor ref
  deleted : s.deleted ⊆ t.deleted
  orphans : s.orphans ⊆ t.orphans
  held : ∀ task ∈ s.tasks, ∀ ref, task.Holds ref → t.AccountsFor ref

theorem Keeps.accounts (h : s.Keeps t)
    (hkept : ∀ asset ∈ s.asset, ∀ ref ∈ asset.recordingRef, t.AccountsFor ref)
    (hs : ∀ ref ∈ s.answered, s.AccountsFor ref) : ∀ ref ∈ t.answered, t.AccountsFor ref := by
  intro ref href
  obtain href | haccounts := h.answered ref href
  · obtain ⟨asset, hasset, hrow⟩ | hdeleted | horphan | ⟨task, htask, hholds⟩ := hs ref href
    · exact hkept asset hasset ref hrow
    · exact .inr (.inl (h.deleted hdeleted))
    · exact .inr (.inr (.inl (h.orphans horphan)))
    · exact h.held task htask ref hholds
  · exact haccounts

/-- A task is the one replaced, or stays among the others. -/
theorem mem_eraseIdx_of_mem {tasks : List (RecordingTask ρ)} {index : ℕ} {task other : RecordingTask ρ}
    (hget : tasks[index]? = some task) (hother : other ∈ tasks) :
    other = task ∨ other ∈ tasks.eraseIdx index := by
  obtain ⟨place, hplace, rfl⟩ := List.mem_iff_getElem.mp hother
  by_cases hsame : place = index
  · subst hsame
    rw [List.getElem?_eq_getElem hplace] at hget
    exact .inl (Option.some.inj hget)
  · right
    rw [List.mem_eraseIdx_iff_getElem]
    exact ⟨place, hplace, hsame, rfl⟩

/-- A task replaced, with what it held accounted for. -/
theorem keeps_of_replaced {task : ℕ} {old : RecordingTask ρ} {next : List (RecordingTask ρ)}
    (hget : s.tasks[task]? = some old) (htasks : t.tasks = s.tasks.eraseIdx task ++ next)
    (hanswered : ∀ ref ∈ t.answered, ref ∈ s.answered ∨ t.AccountsFor ref)
    (hdeleted : s.deleted ⊆ t.deleted) (horphans : s.orphans ⊆ t.orphans)
    (hheld : ∀ ref, old.Holds ref → t.AccountsFor ref) : s.Keeps t := by
  refine ⟨hanswered, hdeleted, horphans, fun other hother ref hholds => ?_⟩
  obtain rfl | hrest := mem_eraseIdx_of_mem hget hother
  · exact hheld ref hholds
  · refine .inr (.inr (.inr ⟨other, ?_, hholds⟩))
    rw [htasks]
    exact List.mem_append_left _ hrest

/-- A task that held nothing replaced, the ledger left. -/
theorem keeps_of_idle {task : ℕ} {old : RecordingTask ρ} {next : List (RecordingTask ρ)}
    (hget : s.tasks[task]? = some old) (htasks : t.tasks = s.tasks.eraseIdx task ++ next)
    (hanswered : t.answered = s.answered) (hdeleted : t.deleted = s.deleted)
    (horphans : t.orphans = s.orphans) (hidle : ∀ ref, ¬ old.Holds ref) : s.Keeps t :=
  keeps_of_replaced hget htasks (fun _ href => .inl (hanswered ▸ href))
    (hdeleted ▸ List.Subset.refl _) (horphans ▸ List.Subset.refl _)
    fun ref hholds => absurd hholds (hidle ref)

/-- The row written, no task done and the ledger left. -/
theorem keeps_of_written (hanswered : t.answered = s.answered) (hdeleted : t.deleted = s.deleted)
    (horphans : t.orphans = s.orphans) (htasks : s.tasks ⊆ t.tasks) : s.Keeps t :=
  ⟨fun _ href => .inl (hanswered ▸ href), hdeleted ▸ List.Subset.refl _,
    horphans ▸ List.Subset.refl _,
    fun task htask _ hholds => .inr (.inr (.inr ⟨task, htasks htask, hholds⟩))⟩

/-- The tasks a step leaves: old ones, or new ones claimed from the row or from an old one's; a new
delete answered is in the ledger. -/
def TasksFrom (s t : Recorder ρ) : Prop :=
  s.deleted ⊆ t.deleted ∧ ∀ task ∈ t.tasks, task ∈ s.tasks ∨
    (∀ asked ∈ task.asked, asked ∈ s.asset ∨ ∃ old ∈ s.tasks, asked ∈ old.asked) ∧
    ∀ asked attempt, task = .answered asked attempt .delete →
      ∀ ref ∈ asked.recordingRef, ref ∈ t.deleted

theorem tasksFrom_of_written (hdeleted : t.deleted = s.deleted) (htasks : t.tasks = s.tasks) :
    s.TasksFrom t :=
  ⟨hdeleted ▸ List.Subset.refl _, fun _ htask => .inl (htasks ▸ htask)⟩

theorem tasksFrom_of_replaced (hdeleted : s.deleted ⊆ t.deleted) {task : ℕ}
    {old : RecordingTask ρ} {next : List (RecordingTask ρ)}
    (hget : s.tasks[task]? = some old) (htasks : t.tasks = s.tasks.eraseIdx task ++ next)
    (hnext : ∀ new ∈ next, (∀ asked ∈ new.asked, asked ∈ old.asked) ∧
      ∀ asked attempt, new = .answered asked attempt .delete →
        ∀ ref ∈ asked.recordingRef, ref ∈ t.deleted) : s.TasksFrom t := by
  refine ⟨hdeleted, fun new hnew => ?_⟩
  rw [htasks, List.mem_append] at hnew
  obtain hrest | hnew := hnew
  · exact .inl (List.mem_of_mem_eraseIdx hrest)
  · obtain ⟨hasked, hanswered⟩ := hnext new hnew
    exact .inr ⟨fun asked h => .inr ⟨old, List.mem_of_getElem? hget, hasked asked h⟩, hanswered⟩

theorem Backed.of_tasksFrom (h : s.Backed) (hmoves : s.RowMoves t) (htasks : s.TasksFrom t) :
    t.Backed := by
  obtain ⟨events, -, hrow⟩ := hmoves
  obtain ⟨hdeleted, htasks⟩ := htasks
  refine ⟨fun task htask asked hasked ref href => ?_, fun asked attempt htask ref href => ?_⟩
  · apply hrow.backed
    obtain hold | ⟨hnew, -⟩ := htasks task htask
    · exact h.row task hold asked hasked ref href
    · obtain hasset | ⟨old, hold, holdAsked⟩ := hnew asked hasked
      · exact ⟨asked, hasset, .inl href⟩
      · exact h.row old hold asked holdAsked ref href
  · obtain hold | ⟨-, hnew⟩ := htasks _ htask
    · exact hdeleted (h.deleted asked attempt hold ref href)
    · exact hnew asked attempt rfl ref href

section Steps

variable [RunRules] [ReplayRules] [DecidableEq ρ] {a : RecordingStep ρ}

omit [RunRules] [ReplayRules] [DecidableEq ρ] in
theorem mem_invoked {asked : ReplayAsset ρ} {attempt : ℕ} {new : RecordingTask ρ}
    (h : new ∈ RecordingTask.invoked asked attempt) :
    new.asked = some asked ∧ ∀ row attempt, new = .answered row attempt .delete →
      row.recordingRef = none := by
  unfold RecordingTask.invoked at h
  split at h <;> simp only [List.mem_singleton, List.not_mem_nil] at h
  · subst h
    exact ⟨rfl, by simp⟩
  · subst h
    exact ⟨rfl, by simp⟩
  · rename_i hnone
    subst h
    refine ⟨rfl, fun row attempt hrow => ?_⟩
    rw [RecordingTask.answered.injEq] at hrow
    rw [← hrow.1]
    exact hnone
  · subst h
    exact ⟨rfl, by simp⟩

omit [RunRules] [ReplayRules] [DecidableEq ρ] in
theorem eq_of_mem_failed {asked : ReplayAsset ρ} {attempt : ℕ} {refused : Bool}
    {new : RecordingTask ρ} (h : new ∈ RecordingTask.failed asked attempt refused) :
    new = .refused asked attempt := by
  unfold RecordingTask.failed at h
  split_ifs at h
  · exact List.mem_singleton.mp h
  · cases h

omit [RunRules] [ReplayRules] [DecidableEq ρ] in
theorem eq_of_mem_timedOut {asked : ReplayAsset ρ} {attempt : ℕ} {new : RecordingTask ρ}
    (h : new ∈ RecordingTask.timedOut asked attempt) :
    new = .startingLate ∨ new = .refused asked attempt := by
  rw [RecordingTask.timedOut, List.mem_append] at h
  obtain hlate | hfailed := h
  · split_ifs at hlate
    · exact .inl (List.mem_singleton.mp hlate)
    · cases hlate
  · exact .inr (eq_of_mem_failed hfailed)

omit [RunRules] [ReplayRules] [DecidableEq ρ] in
theorem eq_of_mem_unwritten {result : CallResult ρ} {new : RecordingTask ρ}
    (h : new ∈ RecordingTask.unwritten result) : ∃ ref, new = .orphan ref 1 := by
  unfold RecordingTask.unwritten at h
  split at h
  · exact ⟨_, List.mem_singleton.mp h⟩
  · cases h

omit [RunRules] [ReplayRules] [DecidableEq ρ] in
theorem answerTo_deleted (s : Recorder ρ) (asked : ReplayAsset ρ) (result : CallResult ρ) :
    s.deleted ⊆ (s.answerTo asked result).deleted := by
  cases result with
  | delete => exact List.subset_append_left _ _
  | start => exact List.Subset.refl _
  | stop => exact List.Subset.refl _
  | status => exact List.Subset.refl _

omit [DecidableEq ρ] in
/-- What is left of an outcome's task: refused, or a recording nobody keeps. -/
theorem settled_tasks (s : Recorder ρ) (task : ℕ) (asked : ReplayAsset ρ) (attempt : ℕ)
    (result : CallResult ρ) (facts : Option AssetDateFacts) (runEndedAt : Option Instant)
    (now : Instant) (commitment : Commitment) :
    ∃ next, (s.settled task asked attempt result facts runEndedAt now commitment).tasks =
        s.tasks.eraseIdx task ++ next ∧
      ∀ new ∈ next, new = .refused asked attempt ∨ ∃ ref, new = .orphan ref 1 := by
  unfold settled
  split
  · exact ⟨_, rfl, fun new hnew => .inl (List.mem_singleton.mp hnew)⟩
  · exact ⟨_, rfl, fun new hnew => .inr (eq_of_mem_unwritten hnew)⟩
  · cases commitment with
    | committed =>
        refine ⟨_, rfl, fun new hnew => .inr ?_⟩
        obtain ⟨ref, -, rfl⟩ := List.mem_map.mp hnew
        exact ⟨ref, rfl⟩
    | rolledBack => exact ⟨_, rfl, fun new hnew => .inr (eq_of_mem_unwritten hnew)⟩
    | unacknowledged => exact ⟨_, rfl, fun new hnew => .inr (eq_of_mem_unwritten hnew)⟩

omit [DecidableEq ρ] in
theorem settled_ledger (s : Recorder ρ) (task : ℕ) (asked : ReplayAsset ρ) (attempt : ℕ)
    (result : CallResult ρ) (facts : Option AssetDateFacts) (runEndedAt : Option Instant)
    (now : Instant) (commitment : Commitment) :
    let t := s.settled task asked attempt result facts runEndedAt now commitment
    t.answered = s.answered ∧ t.deleted = s.deleted ∧ t.orphans = s.orphans := by
  unfold settled
  split
  · exact ⟨rfl, rfl, rfl⟩
  · exact ⟨rfl, rfl, rfl⟩
  · cases commitment with
    | committed => exact ⟨rfl, rfl, rfl⟩
    | rolledBack => exact ⟨rfl, rfl, rfl⟩
    | unacknowledged => exact ⟨rfl, rfl, rfl⟩

/-- Every step leaves old tasks, or new ones made of them. -/
theorem step_tasksFrom (hstep : s.step a = some t) : s.TasksFrom t := by
  cases a with
  | request dateId channelId startedAt facts =>
      simp only [Recorder.step] at hstep
      split_ifs at hstep
      obtain rfl := Option.some.inj hstep
      exact tasksFrom_of_written rfl rfl
  | close runEndedAt =>
      simp only [Recorder.step, Option.bind_eq_bind, Option.bind_eq_some_iff,
        Option.some.injEq] at hstep
      obtain ⟨asset, hasset, closed, hclosed, rfl⟩ := hstep
      exact tasksFrom_of_written rfl rfl
  | withdraw outcome now =>
      simp only [Recorder.step, Option.bind_eq_bind, Option.bind_eq_some_iff,
        Option.some.injEq] at hstep
      obtain ⟨asset, hasset, withdrawn, hwithdrawn, rfl⟩ := hstep
      exact tasksFrom_of_written rfl rfl
  | expire now =>
      simp only [Recorder.step, Option.bind_eq_bind, Option.bind_eq_some_iff,
        Option.some.injEq] at hstep
      obtain ⟨asset, hasset, expired, hexpired, rfl⟩ := hstep
      exact tasksFrom_of_written rfl rfl
  | claim now random =>
      simp only [Recorder.step, Option.bind_eq_bind, Option.bind_eq_some_iff] at hstep
      obtain ⟨asset, hasset, hstep⟩ := hstep
      split_ifs at hstep
      obtain rfl := Option.some.inj hstep
      refine ⟨List.Subset.refl _, fun task htask => ?_⟩
      obtain htask | htask := List.mem_append.mp htask
      · exact .inl htask
      · rw [List.mem_singleton.mp htask]
        refine .inr ⟨fun asked hasked => .inl ?_, by simp⟩
        rw [← Option.some.inj hasked]
        exact hasset
  | invoke task =>
      simp only [Recorder.step] at hstep
      split at hstep
      · rename_i asked attempt hget
        obtain rfl := Option.some.inj hstep
        refine tasksFrom_of_replaced (List.Subset.refl _) hget rfl fun new hnew => ?_
        obtain ⟨hasked, hnone⟩ := mem_invoked hnew
        refine ⟨fun row hrow => ?_, fun row attempt hrow ref href => ?_⟩
        · rwa [hasked] at hrow
        · rw [hnone row attempt hrow] at href
          cases href
      · cases hstep
  | answer task result =>
      simp only [Recorder.step] at hstep
      split at hstep
      · rename_i asked attempt hget
        split_ifs at hstep
        obtain rfl := Option.some.inj hstep
        have htasks : ((s.answerTo asked result).replaced task
            [.answered asked attempt result]).tasks =
              s.tasks.eraseIdx task ++ [.answered asked attempt result] := by
          rw [replaced_tasks, answerTo_tasks]
        refine tasksFrom_of_replaced (answerTo_deleted s asked result) hget htasks
          fun new hnew => ?_
        rw [List.mem_singleton.mp hnew]
        refine ⟨fun row hrow => hrow, fun row attempt hrow ref href => ?_⟩
        rw [RecordingTask.answered.injEq] at hrow
        obtain ⟨rfl, -, rfl⟩ := hrow
        exact List.mem_append_right _ (Option.mem_toList.mpr href)
      · cases hstep
  | fail task unknown =>
      simp only [Recorder.step] at hstep
      split at hstep
      · rename_i asked attempt hget
        obtain rfl := Option.some.inj hstep
        refine tasksFrom_of_replaced (List.Subset.refl _) hget rfl fun new hnew => ?_
        rw [eq_of_mem_failed hnew]
        exact ⟨fun row hrow => hrow, by simp⟩
      · cases hstep
  | timeOut task =>
      simp only [Recorder.step] at hstep
      split at hstep
      · rename_i asked attempt hget
        obtain rfl := Option.some.inj hstep
        refine tasksFrom_of_replaced (List.Subset.refl _) hget rfl fun new hnew => ?_
        obtain rfl | rfl := eq_of_mem_timedOut hnew
        · exact ⟨fun row hrow => (by cases hrow), by simp⟩
        · exact ⟨fun row hrow => hrow, by simp⟩
      · cases hstep
  | answerLate task ref =>
      simp only [Recorder.step] at hstep
      split at hstep
      · rename_i hget
        obtain rfl := Option.some.inj hstep
        refine tasksFrom_of_replaced (List.Subset.refl _) hget rfl fun new hnew => ?_
        rw [List.mem_singleton.mp hnew]
        exact ⟨fun row hrow => (by cases hrow), by simp⟩
      · cases hstep
  | failLate task =>
      simp only [Recorder.step] at hstep
      split at hstep
      · rename_i hget
        obtain rfl := Option.some.inj hstep
        exact tasksFrom_of_replaced (List.Subset.refl _) hget rfl fun new hnew => (by cases hnew)
      · cases hstep
  | settle task facts runEndedAt now commitment =>
      simp only [Recorder.step] at hstep
      split at hstep
      · rename_i asked attempt result hget
        obtain rfl := Option.some.inj hstep
        obtain ⟨next, hnext, htasks⟩ :=
          s.settled_tasks task asked attempt result facts runEndedAt now commitment
        have hledger := s.settled_ledger task asked attempt result facts runEndedAt now commitment
        refine tasksFrom_of_replaced ?_ hget hnext fun new hnew => ?_
        · rw [hledger.2.1]
          exact List.Subset.refl _
        · obtain rfl | ⟨ref, rfl⟩ := htasks new hnew
          · exact ⟨fun row hrow => hrow, by simp⟩
          · exact ⟨fun row hrow => (by cases hrow), by simp⟩
      · cases hstep
  | giveUp task now =>
      simp only [Recorder.step] at hstep
      split at hstep
      · rename_i hget
        split at hstep
        · obtain rfl := Option.some.inj hstep
          exact tasksFrom_of_replaced (List.Subset.refl _) hget rfl fun new hnew => (by cases hnew)
        · obtain rfl := Option.some.inj hstep
          exact tasksFrom_of_replaced (List.Subset.refl _) hget rfl fun new hnew => (by cases hnew)
      · cases hstep
  | abandon task =>
      simp only [Recorder.step] at hstep
      split at hstep
      · rename_i hget
        obtain rfl := Option.some.inj hstep
        exact tasksFrom_of_replaced (List.Subset.refl _) hget rfl fun new hnew => (by cases hnew)
      · rename_i hget
        obtain rfl := Option.some.inj hstep
        exact tasksFrom_of_replaced (List.Subset.refl _) hget rfl fun new hnew => (by cases hnew)
      · cases hstep
  | orphanDeleted task =>
      simp only [Recorder.step] at hstep
      split at hstep
      · rename_i hget
        obtain rfl := Option.some.inj hstep
        exact tasksFrom_of_replaced (List.subset_append_left _ _) hget rfl
          fun new hnew => (by cases hnew)
      · cases hstep
  | orphanFailed task =>
      simp only [Recorder.step] at hstep
      split at hstep
      · rename_i hget
        split_ifs at hstep
        · obtain rfl := Option.some.inj hstep
          refine tasksFrom_of_replaced (List.Subset.refl _) hget rfl fun new hnew => ?_
          rw [List.mem_singleton.mp hnew]
          exact ⟨fun row hrow => (by cases hrow), by simp⟩
        · obtain rfl := Option.some.inj hstep
          exact tasksFrom_of_replaced (List.Subset.refl _) hget rfl fun new hnew => (by cases hnew)
      · cases hstep

theorem Backed.step (h : s.Backed) (hstep : s.step a = some t) : t.Backed :=
  h.of_tasksFrom (step_rowMoves hstep) (step_tasksFrom hstep)

omit [DecidableEq ρ] in
/-- A start's reference is kept, or its deletion is left to do. -/
theorem settled_start_accountsFor {task : ℕ} {asked : ReplayAsset ρ} {attempt : ℕ} {ref : ρ}
    {facts : Option AssetDateFacts} {runEndedAt : Option Instant} {now : Instant}
    {commitment : Commitment} :
    (s.settled task asked attempt (.start ref) facts runEndedAt now commitment).AccountsFor ref := by
  have hunwritten : ∀ u : Recorder ρ,
      (u.replaced task (RecordingTask.unwritten (.start ref))).AccountsFor ref := fun u =>
    .inr (.inr (.inr ⟨.orphan ref 1, List.mem_append_right _ List.mem_cons_self, rfl⟩))
  unfold settled
  simp only [ReplayAsset.settle]
  cases commitment with
  | committed =>
      obtain ⟨after, hafter, hkept⟩ | horphan := ReplayAsset.settleStart_ref s.asset ref
      · exact .inl ⟨after, hafter, hkept⟩
      · refine .inr (.inr (.inr ⟨.orphan ref 1, ?_, rfl⟩))
        simp [horphan]
  | rolledBack => exact hunwritten s
  | unacknowledged => exact hunwritten _

omit [DecidableEq ρ] in
theorem settled_asset_of_rolledBack {task : ℕ} {asked : ReplayAsset ρ} {attempt : ℕ}
    {result : CallResult ρ} {facts : Option AssetDateFacts} {runEndedAt : Option Instant}
    {now : Instant} {commitment : Commitment} (h : commitment = .rolledBack) :
    (s.settled task asked attempt result facts runEndedAt now commitment).asset = s.asset := by
  subst h
  unfold settled
  split
  · rfl
  · rfl
  · rfl

omit [DecidableEq ρ] in
/-- The row's reference stays, unless a delete due was answered. -/
theorem settled_ref {task : ℕ} {asked : ReplayAsset ρ} {attempt : ℕ} {result : CallResult ρ}
    {facts : Option AssetDateFacts} {runEndedAt : Option Instant} {now : Instant}
    {commitment : Commitment} {asset : ReplayAsset ρ} (hasset : s.asset = some asset) {ref : ρ}
    (href : asset.recordingRef = some ref) :
    (∃ after ∈ (s.settled task asked attempt result facts runEndedAt now commitment).asset,
      after.recordingRef = some ref) ∨ result = .delete ∧ asset.callDue = some .delete := by
  unfold settled
  split
  · exact .inl ⟨asset, hasset, href⟩
  · exact .inl ⟨asset, hasset, href⟩
  · rename_i outcome houtcome
    have hsettled := ReplayAsset.settle_ref houtcome hasset href
    cases commitment with
    | committed => exact hsettled
    | rolledBack => exact .inl ⟨asset, hasset, href⟩
    | unacknowledged => exact hsettled

omit [RunRules] [ReplayRules] [DecidableEq ρ] in
/-- Under the condition, the delete that clears a reference was answered for it. -/
theorem Backed.asked_ref (h : s.Backed) {task : ℕ} {facts : Option AssetDateFacts}
    {runEndedAt : Option Instant} {now : Instant} {commitment : Commitment}
    (hkeeps : s.KeepsRef (.settle task facts runEndedAt now commitment))
    (hcommitted : commitment ≠ .rolledBack) {asked : ReplayAsset ρ} {attempt : ℕ}
    (hget : s.tasks[task]? = some (.answered asked attempt .delete)) {asset : ReplayAsset ρ}
    (hasset : s.asset = some asset) (hdue : asset.callDue = some .delete) {ref : ρ}
    (href : asset.recordingRef = some ref) : asked.recordingRef = some ref := by
  cases hasked : asked.recordingRef with
  | none =>
      have hblind : (RecordingTask.answered asked attempt .delete).isBlindDelete = true := by
        simp [RecordingTask.isBlindDelete, hasked]
      rw [hkeeps _ hget hblind hcommitted asset hasset hdue] at href
      cases href
  | some askedRef =>
      obtain ⟨row, hrow, hback⟩ := h.row _ (List.mem_of_getElem? hget) asked rfl askedRef hasked
      obtain rfl := Option.some.inj (hasset.symm.trans hrow)
      obtain hsame | hstate := hback
      · exact hsame.symm.trans href
      · rw [ReplayAsset.callDue_eq_delete hdue] at hstate
        cases hstate

omit [DecidableEq ρ] in
/-- The settlement of an outcome keeps a start's reference, or leaves it to be deleted. -/
theorem settled_keeps {task : ℕ} {asked : ReplayAsset ρ} {attempt : ℕ} {result : CallResult ρ}
    {facts : Option AssetDateFacts} {runEndedAt : Option Instant} {now : Instant}
    {commitment : Commitment} (hget : s.tasks[task]? = some (.answered asked attempt result)) :
    s.Keeps (s.settled task asked attempt result facts runEndedAt now commitment) := by
  obtain ⟨hanswered, hdeleted, horphans⟩ :=
    s.settled_ledger task asked attempt result facts runEndedAt now commitment
  obtain ⟨next, htasks, -⟩ :=
    s.settled_tasks task asked attempt result facts runEndedAt now commitment
  cases result with
  | start started =>
      refine keeps_of_replaced hget htasks (fun ref href => .inl (hanswered ▸ href))
        (hdeleted ▸ List.Subset.refl _) (horphans ▸ List.Subset.refl _) fun ref hholds => ?_
      obtain rfl : started = ref := hholds
      exact settled_start_accountsFor
  | stop => exact keeps_of_idle hget htasks hanswered hdeleted horphans fun ref => id
  | status => exact keeps_of_idle hget htasks hanswered hdeleted horphans fun ref => id
  | delete => exact keeps_of_idle hget htasks hanswered hdeleted horphans fun ref => id

/-- Every step keeps the ledger, and the references its tasks held. -/
theorem step_keeps (hstep : s.step a = some t) : s.Keeps t := by
  cases a with
  | request dateId channelId startedAt facts =>
      simp only [Recorder.step] at hstep
      split_ifs at hstep
      obtain rfl := Option.some.inj hstep
      exact keeps_of_written rfl rfl rfl (List.Subset.refl _)
  | close runEndedAt =>
      simp only [Recorder.step, Option.bind_eq_bind, Option.bind_eq_some_iff,
        Option.some.injEq] at hstep
      obtain ⟨asset, hasset, closed, hclosed, rfl⟩ := hstep
      exact keeps_of_written rfl rfl rfl (List.Subset.refl _)
  | withdraw outcome now =>
      simp only [Recorder.step, Option.bind_eq_bind, Option.bind_eq_some_iff,
        Option.some.injEq] at hstep
      obtain ⟨asset, hasset, withdrawn, hwithdrawn, rfl⟩ := hstep
      exact keeps_of_written rfl rfl rfl (List.Subset.refl _)
  | expire now =>
      simp only [Recorder.step, Option.bind_eq_bind, Option.bind_eq_some_iff,
        Option.some.injEq] at hstep
      obtain ⟨asset, hasset, expired, hexpired, rfl⟩ := hstep
      exact keeps_of_written rfl rfl rfl (List.Subset.refl _)
  | claim now random =>
      simp only [Recorder.step, Option.bind_eq_bind, Option.bind_eq_some_iff] at hstep
      obtain ⟨asset, hasset, hstep⟩ := hstep
      split_ifs at hstep
      obtain rfl := Option.some.inj hstep
      exact keeps_of_written rfl rfl rfl (List.subset_append_left _ _)
  | settle task facts runEndedAt now commitment =>
      simp only [Recorder.step] at hstep
      split at hstep
      · rename_i asked attempt result hget
        obtain rfl := Option.some.inj hstep
        exact settled_keeps hget
      · cases hstep
  | answer task result =>
      simp only [Recorder.step] at hstep
      split at hstep
      · rename_i asked attempt hget
        split_ifs at hstep
        obtain rfl := Option.some.inj hstep
        have htasks : ((s.answerTo asked result).replaced task
            [.answered asked attempt result]).tasks =
              s.tasks.eraseIdx task ++ [.answered asked attempt result] := by
          rw [replaced_tasks, answerTo_tasks]
        refine keeps_of_replaced hget htasks ?_ (answerTo_deleted s asked result) ?_
          fun ref hholds => hholds.elim
        · intro ref href
          cases result with
          | start started =>
              obtain href | href := List.mem_append.mp href
              · exact .inl href
              · refine .inr (.inr (.inr (.inr ⟨.answered asked attempt (.start started), ?_,
                  (List.mem_singleton.mp href).symm⟩)))
                exact htasks ▸ List.mem_append_right _ List.mem_cons_self
          | stop => exact .inl href
          | status => exact .inl href
          | delete => exact .inl href
        · show s.orphans ⊆ (s.answerTo asked result).orphans
          rw [answerTo_orphans]
          exact List.Subset.refl _
      · cases hstep
  | answerLate task started =>
      simp only [Recorder.step] at hstep
      split at hstep
      · rename_i hget
        obtain rfl := Option.some.inj hstep
        refine keeps_of_replaced hget rfl (fun ref href => ?_) (List.Subset.refl _)
          (List.Subset.refl _) fun ref hholds => hholds.elim
        obtain href | href := List.mem_append.mp href
        · exact .inl href
        · refine .inr (.inr (.inr (.inr ⟨.orphan started 1, ?_,
            (List.mem_singleton.mp href).symm⟩)))
          exact List.mem_append_right _ List.mem_cons_self
      · cases hstep
  | giveUp task now =>
      simp only [Recorder.step] at hstep
      split at hstep
      · rename_i hget
        split at hstep
        · obtain rfl := Option.some.inj hstep
          exact keeps_of_idle hget rfl rfl rfl rfl fun ref => id
        · obtain rfl := Option.some.inj hstep
          exact keeps_of_idle hget rfl rfl rfl rfl fun ref => id
      · cases hstep
  | abandon task =>
      simp only [Recorder.step] at hstep
      split at hstep
      · rename_i hget
        obtain rfl := Option.some.inj hstep
        exact keeps_of_idle hget rfl rfl rfl rfl fun ref => id
      · rename_i hget
        obtain rfl := Option.some.inj hstep
        exact keeps_of_idle hget rfl rfl rfl rfl fun ref => id
      · cases hstep
  | orphanDeleted task =>
      simp only [Recorder.step] at hstep
      split at hstep
      · rename_i started attempt hget
        obtain rfl := Option.some.inj hstep
        refine keeps_of_replaced hget rfl (fun ref href => .inl href)
          (List.subset_append_left _ _) (List.Subset.refl _) fun ref hholds => ?_
        rw [← show started = ref from hholds]
        exact .inr (.inl (List.mem_append_right _ List.mem_cons_self))
      · cases hstep
  | orphanFailed task =>
      simp only [Recorder.step] at hstep
      split at hstep
      · rename_i started attempt hget
        split_ifs at hstep
        · obtain rfl := Option.some.inj hstep
          refine keeps_of_replaced hget rfl (fun ref href => .inl href) (List.Subset.refl _)
            (List.Subset.refl _) fun ref hholds => ?_
          exact .inr (.inr (.inr ⟨_, List.mem_append_right _ List.mem_cons_self, hholds⟩))
        · obtain rfl := Option.some.inj hstep
          refine keeps_of_replaced hget rfl (fun ref href => .inl href) (List.Subset.refl _)
            (fun ref href => List.mem_insert_of_mem href) fun ref hholds => ?_
          rw [← show started = ref from hholds]
          exact .inr (.inr (.inl List.mem_insert_self))
      · cases hstep
  | invoke task | fail task unknown | timeOut task | failLate task =>
      simp only [Recorder.step] at hstep
      split at hstep
      · rename_i hget
        obtain rfl := Option.some.inj hstep
        exact keeps_of_idle hget rfl rfl rfl rfl fun ref => id
      · cases hstep

/-- The settlement that clears the row's reference: a delete answered, and due. -/
def Clears (s : Recorder ρ) (a : RecordingStep ρ) (asset : ReplayAsset ρ)
    (asked : ReplayAsset ρ) : Prop :=
  ∃ task facts runEndedAt now commitment attempt,
    a = .settle task facts runEndedAt now commitment ∧ commitment ≠ .rolledBack ∧
      s.tasks[task]? = some (.answered asked attempt .delete) ∧ asset.callDue = some .delete

/-- The row's reference stays through every step but the settlement of a delete. -/
theorem step_ref (hstep : s.step a = some t) {asset : ReplayAsset ρ} (hasset : s.asset = some asset)
    {ref : ρ} (href : asset.recordingRef = some ref) :
    (∃ after ∈ t.asset, after.recordingRef = some ref) ∨ ∃ asked, s.Clears a asset asked := by
  cases a with
  | request dateId channelId startedAt facts =>
      simp only [Recorder.step] at hstep
      split_ifs at hstep with habsent
      simp [hasset] at habsent
  | close runEndedAt =>
      simp only [Recorder.step, Option.bind_eq_bind, Option.bind_eq_some_iff,
        Option.some.injEq] at hstep
      obtain ⟨row, hrow, closed, hclosed, rfl⟩ := hstep
      obtain rfl := Option.some.inj (hasset.symm.trans hrow)
      exact .inl ⟨closed, rfl, (ReplayAsset.close_ref hclosed).trans href⟩
  | withdraw outcome now =>
      simp only [Recorder.step, Option.bind_eq_bind, Option.bind_eq_some_iff,
        Option.some.injEq] at hstep
      obtain ⟨row, hrow, withdrawn, hwithdrawn, rfl⟩ := hstep
      obtain rfl := Option.some.inj (hasset.symm.trans hrow)
      exact .inl ⟨withdrawn.1, rfl, (ReplayAsset.withdrawOne_ref hwithdrawn).trans href⟩
  | expire now =>
      simp only [Recorder.step, Option.bind_eq_bind, Option.bind_eq_some_iff,
        Option.some.injEq] at hstep
      obtain ⟨row, hrow, expired, hexpired, rfl⟩ := hstep
      obtain rfl := Option.some.inj (hasset.symm.trans hrow)
      exact .inl ⟨expired.1, rfl, (ReplayAsset.expireOne_ref hexpired).trans href⟩
  | claim now random =>
      simp only [Recorder.step, Option.bind_eq_bind, Option.bind_eq_some_iff] at hstep
      obtain ⟨row, hrow, hstep⟩ := hstep
      split_ifs at hstep
      obtain rfl := Option.some.inj hstep
      obtain rfl := Option.some.inj (hasset.symm.trans hrow)
      exact .inl ⟨_, rfl, href⟩
  | settle task facts runEndedAt now commitment =>
      simp only [Recorder.step] at hstep
      split at hstep
      · rename_i asked attempt result hget
        obtain rfl := Option.some.inj hstep
        by_cases hrolled : commitment = .rolledBack
        · rw [settled_asset_of_rolledBack hrolled]
          exact .inl ⟨asset, hasset, href⟩
        · have hsettled : (∃ after ∈ (s.settled task asked attempt result facts runEndedAt now
              commitment).asset, after.recordingRef = some ref) ∨
                result = .delete ∧ asset.callDue = some .delete :=
            settled_ref hasset href
          obtain hkept | ⟨rfl, hdue⟩ := hsettled
          · exact .inl hkept
          · exact .inr ⟨asked, task, facts, runEndedAt, now, commitment, attempt, rfl, hrolled,
              hget, hdue⟩
      · cases hstep
  | giveUp task now =>
      simp only [Recorder.step] at hstep
      split at hstep
      · split at hstep
        · rename_i failed hfailed
          obtain rfl := Option.some.inj hstep
          simp only [Option.bind_eq_some_iff] at hfailed
          obtain ⟨row, hrow, call, -, hfailed⟩ := hfailed
          obtain rfl := Option.some.inj (hasset.symm.trans hrow)
          exact .inl ⟨failed, rfl, (ReplayAsset.giveUp_ref hfailed).trans href⟩
        · obtain rfl := Option.some.inj hstep
          exact .inl ⟨asset, hasset, href⟩
      · cases hstep
  | answer task result =>
      simp only [Recorder.step] at hstep
      split at hstep
      · split_ifs at hstep
        obtain rfl := Option.some.inj hstep
        exact .inl ⟨asset, (answerTo_asset s _ result).trans hasset, href⟩
      · cases hstep
  | orphanFailed task =>
      simp only [Recorder.step] at hstep
      split at hstep
      · split_ifs at hstep
        · obtain rfl := Option.some.inj hstep
          exact .inl ⟨asset, hasset, href⟩
        · obtain rfl := Option.some.inj hstep
          exact .inl ⟨asset, hasset, href⟩
      · cases hstep
  | abandon task =>
      simp only [Recorder.step] at hstep
      split at hstep
      · obtain rfl := Option.some.inj hstep
        exact .inl ⟨asset, hasset, href⟩
      · obtain rfl := Option.some.inj hstep
        exact .inl ⟨asset, hasset, href⟩
      · cases hstep
  | invoke task | fail task unknown | timeOut task | answerLate task started | failLate task
  | orphanDeleted task =>
      simp only [Recorder.step] at hstep
      split at hstep
      · obtain rfl := Option.some.inj hstep
        exact .inl ⟨asset, hasset, href⟩
      · cases hstep

omit [RunRules] [ReplayRules] [DecidableEq ρ] in
theorem Backed.clears (h : s.Backed) (hkeeps : s.KeepsRef a) {asset asked : ReplayAsset ρ}
    (hclears : s.Clears a asset asked) (hasset : s.asset = some asset) {ref : ρ}
    (href : asset.recordingRef = some ref) : asked.recordingRef = some ref ∧ ref ∈ s.deleted := by
  obtain ⟨task, facts, runEndedAt, now, commitment, attempt, rfl, hcommitted, hget, hdue⟩ := hclears
  have hasked := h.asked_ref hkeeps hcommitted hget hasset hdue href
  exact ⟨hasked, h.deleted asked attempt (List.mem_of_getElem? hget) ref hasked⟩

/-- In every run no delete made without a reference is settled on a row whose reference is to be
deleted. Each reference the provider answered is then kept, deleted, recorded as an orphan or still
in some replica's hands; and a row's reference is cleared only by a delete the provider answered for
that very reference. -/
theorem refs_accounted (h : Reaches KeepsRef step initial s) :
    (∀ ref ∈ s.answered, s.AccountsFor ref) ∧
    (s.tasks = [] → ∀ ref ∈ s.answered, (∃ asset ∈ s.asset, asset.recordingRef = some ref) ∨
      ref ∈ s.deleted ∨ ref ∈ s.orphans) ∧
    ∀ a t, s.KeepsRef a → s.step a = some t → ∀ asset ∈ s.asset, ∀ ref ∈ asset.recordingRef,
      (∃ after ∈ t.asset, after.recordingRef = some ref) ∨
      ∃ asked, s.Clears a asset asked ∧ asked.recordingRef = some ref ∧ ref ∈ s.deleted := by
  obtain ⟨hbacked, haccounts⟩ : s.Backed ∧ ∀ ref ∈ s.answered, s.AccountsFor ref := by
    apply h.invariant (P := fun s => s.Backed ∧ ∀ ref ∈ s.answered, s.AccountsFor ref)
    · exact ⟨⟨by simp [initial], by simp [initial]⟩, by simp [initial]⟩
    · rintro v a w ⟨hbacked, haccounts⟩ hkeeps hstep
      have hv := step_keeps hstep
      refine ⟨hbacked.step hstep, hv.accounts (fun asset hasset ref href => ?_) haccounts⟩
      obtain hkept | ⟨asked, hclears⟩ := step_ref hstep hasset href
      · exact .inl hkept
      · exact .inr (.inl (hv.deleted (hbacked.clears hkeeps hclears hasset href).2))
  refine ⟨haccounts, fun hidle ref href => ?_, fun a t hkeeps hstep asset hasset ref href => ?_⟩
  · obtain hkept | hdeleted | horphan | ⟨task, htask, -⟩ := haccounts ref href
    · exact .inl hkept
    · exact .inr (.inl hdeleted)
    · exact .inr (.inr horphan)
    · rw [hidle] at htask
      cases htask
  · obtain hkept | ⟨asked, hclears⟩ := step_ref hstep hasset href
    · exact .inl hkept
    · exact .inr ⟨asked, hclears, hbacked.clears hkeeps hclears hasset href⟩

end Steps

/-! ## The stale delete -/

section Sample

open Arthome.Core.Sample

/-- A start in flight, its date cancelled: a delete is claimed with no reference. The start is then
kept and stopped, and only then the delete settled. -/
def sampleStaleDelete : List (RecordingStep ℕ) :=
  let facts : Option AssetDateFacts := some ⟨some ⟨0, 60, 30, .included, 48⟩, none⟩
  [.request 1 2 10 facts, .claim 20 0, .invoke 0, .withdraw (some .cancelled) 30, .claim 40 0,
    .invoke 1, .answer 0 (.start 7), .settle 1 facts none 50 .committed, .claim 60 0, .invoke 1,
    .answer 1 .stop, .settle 1 facts none 70 .committed, .settle 0 facts none 80 .committed]

instance (s : Recorder ℕ) : ∀ a, Decidable (s.KeepsRef a)
  | .settle task _ _ _ commitment =>
    inferInstanceAs (Decidable (∀ done ∈ s.tasks[task]?, done.isBlindDelete = true →
      commitment ≠ .rolledBack →
        ∀ asset ∈ s.asset, asset.callDue = some .delete → asset.recordingRef = none))
  | .request .. | .close .. | .withdraw .. | .expire .. | .claim .. | .invoke .. | .answer ..
  | .fail .. | .timeOut .. | .answerLate .. | .failLate .. | .giveUp .. | .abandon ..
  | .orphanDeleted .. | .orphanFailed .. => inferInstanceAs (Decidable True)

/-- A start answered and kept. -/
def sampleStart : List (RecordingStep ℕ) :=
  let facts : Option AssetDateFacts := some ⟨some ⟨0, 60, 30, .included, 48⟩, none⟩
  [.request 1 2 10 facts, .claim 20 0, .invoke 0, .answer 0 (.start 7),
    .settle 0 facts none 30 .committed]

theorem refs_accounted_sample : ∃ s : Recorder ℕ, 7 ∈ s.answered ∧ s.AccountsFor 7 := by
  have hstart : (sampleStart.foldlM (fun s a => if KeepsRef s a then step s a else none)
      (initial : Recorder ℕ)).map (fun s => s.answered) = some [7] := by decide +kernel
  obtain ⟨s, hs, hanswered⟩ := Option.map_eq_some_iff.mp hstart
  have hmem : 7 ∈ s.answered := hanswered ▸ List.mem_cons_self
  exact ⟨s, hmem, (refs_accounted (.of_guarded hs)).1 7 hmem⟩

/-- The reference answered is neither kept nor deleted nor an orphan, and nothing is left to do. -/
theorem ref_dropped_by_stale_delete :
    ∃ s : Recorder ℕ, Reaches (fun _ _ => True) step initial s ∧ s.tasks = [] ∧
      ∃ ref ∈ s.answered, ¬ ((∃ asset ∈ s.asset, asset.recordingRef = some ref) ∨
        ref ∈ s.deleted ∨ ref ∈ s.orphans) := by
  have hdropped : (sampleStaleDelete.foldlM step (initial : Recorder ℕ)).map (fun s =>
      (s.tasks, s.answered, s.asset.bind fun asset => asset.recordingRef, s.deleted, s.orphans)) =
        some ([], [7], none, [], []) := by decide +kernel
  obtain ⟨s, hs, hledger⟩ := Option.map_eq_some_iff.mp hdropped
  simp only [Prod.mk.injEq] at hledger
  obtain ⟨htasks, hanswered, hasset, hdeleted, horphans⟩ := hledger
  refine ⟨s, .of_foldlM (fun _ _ => trivial) hs, htasks, 7, ?_, ?_⟩
  · rw [hanswered]
    exact List.mem_cons_self
  · rintro (⟨asset, hrow, href⟩ | hkept | hkept)
    · rw [Option.mem_def.mp hrow, Option.bind_some, href] at hasset
      cases hasset
    · rw [hdeleted] at hkept
      cases hkept
    · rw [horphans] at hkept
      cases hkept

end Sample

end Recorder

end Arthome.Streaming
