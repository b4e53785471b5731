import Arthome.Library.Latest
import Arthome.Search.Documents

/-!
# The read model after every fact

What a date's row and a show's end on, whatever order their facts are applied in and however
often. Each group ends on the newest fact of its kind, except that a schedule fills in the
publication state where the newest transition is to a state the indexer does not know. A
document takes what its date's move carries over what the schedule states, whichever of the two
was stated last.
-/

namespace Arthome.Search

open Arthome.Core Library Library.Register

/-! ## What the facts state -/

namespace DateFact

def schedule : DateFact → Option (ℤ × ScheduledDateFields)
  | .scheduled version fields => some (version, fields)
  | _ => none

def transition : DateFact → Option (ℤ × Option PublicationState)
  | .stateChanged version state => some (version, state)
  | _ => none

def declaration : DateFact → Option (ℤ × DeclaredOutcome)
  | .outcomeDeclared version declared => some (version, declared)
  | _ => none

def move : DateFact → Option (ℤ × DateMove)
  | .rescheduled version move => some (version, move)
  | _ => none

def replayChange : DateFact → Option (ℤ × StatedReplay)
  | .replayStateChanged version replay => some (version, replay)
  | _ => none

end DateFact

/-- No two statements share a version. -/
def Versioned {α : Type} (statements : List (ℤ × α)) : Prop :=
  ∀ a ∈ statements, ∀ b ∈ statements, a.1 = b.1 → a = b

/-- Facts about one date, the versions of a kind pairwise distinct. -/
structure DistinctVersions (stated : List DateFact) : Prop where
  schedules : Versioned (stated.filterMap DateFact.schedule)
  transitions : Versioned (stated.filterMap DateFact.transition)
  declarations : Versioned (stated.filterMap DateFact.declaration)
  moves : Versioned (stated.filterMap DateFact.move)
  replayChanges : Versioned (stated.filterMap DateFact.replayChange)

/-- The row once the facts are applied, one after the other. -/
def rowOf (row : DateProjection) (applied : List DateFact) : DateProjection :=
  applied.foldl (fun row fact => (dateAfter row fact).getD row) row

/-- Every fact applied at least once, in any order, and no other. -/
def Applies {φ : Type} (stated applied : List φ) : Prop := ∀ fact, fact ∈ applied ↔ fact ∈ stated

theorem Applies.refl {φ : Type} (stated : List φ) : Applies stated stated := fun _ => Iff.rfl

/-- No statement is newer than one of `a`. -/
def StatedLast {α : Type} (statements : List (ℤ × α)) (a : α) : Prop :=
  ∃ version, (version, a) ∈ statements ∧ ∀ other ∈ statements, other.1 ≤ version

theorem statedLast_iff_exists {α : Type} {statements : List (ℤ × α)} {a : α} :
    StatedLast statements a ↔
      ∃ e ∈ statements, e.2 = a ∧ ∀ other ∈ statements, other.1 ≤ e.1 := by
  constructor
  · rintro ⟨version, hmem, hmax⟩
    exact ⟨(version, a), hmem, rfl, hmax⟩
  · rintro ⟨⟨version, _⟩, hmem, rfl, hmax⟩
    exact ⟨version, hmem, hmax⟩

instance {α : Type} [DecidableEq α] (statements : List (ℤ × α)) (a : α) :
    Decidable (StatedLast statements a) :=
  decidable_of_iff _ statedLast_iff_exists.symm

section Statements

variable {α : Type} (field : ScheduledDateFields → α) (carried : DateMove → Option α)

/-- The moves that carry a value. -/
def carriedBy (stated : List DateFact) : List (ℤ × α) :=
  (stated.filterMap DateFact.move).filterMap fun m => (carried m.2).map fun a => (m.1, a)

/-- What the schedules and the moves state of a value. -/
def statementsOf (stated : List DateFact) : List (ℤ × α) :=
  (stated.filterMap DateFact.schedule).map (fun s => (s.1, field s.2)) ++ carriedBy carried stated

/-- What the newest move carries over what a schedule states was stated after it, or is the same;
where that move carries nothing, no earlier move carried anything newer than the schedule and
different from it. -/
def ComposesOver (stated : List DateFact) (s : ℤ × ScheduledDateFields) : Prop :=
  ∀ m, IsLatest (stated.filterMap DateFact.move) m →
    match carried m.2 with
    | some a => s.1 ≤ m.1 ∨ field s.2 = a
    | none => ∀ n, IsLatest (carriedBy carried stated) n → n.1 ≤ s.1 ∨ n.2 = field s.2

def Composes (stated : List DateFact) : Prop :=
  ∀ s, IsLatest (stated.filterMap DateFact.schedule) s → ComposesOver field carried stated s

end Statements

/-- The rows of one date converge, on what the claims of its facts are. -/
structure DateConverges [TimingRules] (dateId : Uuid) (stated : List DateFact) : Prop where
  rows : ∀ applied applied', Applies stated applied → Applies stated applied' →
    rowOf (.empty dateId) applied = rowOf (.empty dateId) applied'
  /-- The newest transition decides the publication state; a date is scheduled by its schedule only
  when no transition is known. -/
  publication : ∀ applied, Applies stated applied →
    (∀ t, IsLatest (stated.filterMap DateFact.transition) t →
      (rowOf (.empty dateId) applied).publicationState = t.2) ∧
    (stated.filterMap DateFact.transition = [] →
      (rowOf (.empty dateId) applied).publicationState =
        (rowOf (.empty dateId) applied).scheduled.map fun _ => .scheduled)
  /-- The document's start, slug and URL are those stated last, and its end and the instant it
  leaves search follow that start. -/
  document : ∀ applied scheduled artist indexedAt, ∀ shown : Option ShowProjection,
    Applies stated applied → (rowOf (.empty dateId) applied).scheduled = some scheduled →
      let row := rowOf (.empty dateId) applied
      let document := dateDocumentOf row scheduled shown artist indexedAt
      StatedLast (statementsOf (fun fields => fields.startsAt) (fun move => some move.startsAt)
        stated) document.startsAt ∧
      StatedLast (statementsOf (fun fields => fields.slug) (fun move => move.slug) stated)
        document.slug ∧
      StatedLast (statementsOf (fun fields => fields.canonicalUrl) (fun move => move.canonicalUrl)
        stated) document.canonicalUrl ∧
      document.endsAt = TimingRules.endsAt (timingOf scheduled document.startsAt) ∧
      document.overAt = overAt row
        ((TimingRules.replayEndsAt (timingOf scheduled document.startsAt)).getD document.endsAt)

/-! ## The groups of a date's row -/

section Parts

variable {row : DateProjection} {fact : DateFact}

def DateProjection.schedulePart (row : DateProjection) :
    Option ℤ × Option Uuid × Option ScheduledDateFields :=
  (row.scheduledVersion, row.showId, row.scheduled)

def DateProjection.outcomePart (row : DateProjection) :
    Option ℤ × Option DateOutcome × Option Instant :=
  (row.outcomeVersion, row.outcome, row.outcomeRescheduledTo)

def DateProjection.movePart (row : DateProjection) :
    Option ℤ × Option Instant × Option String × Option String :=
  (row.movedVersion, row.movedStartsAt, row.movedSlug, row.movedCanonicalUrl)

def DateProjection.replayPart (row : DateProjection) :
    Option ℤ × Option ReplayState × Option Instant × Option Instant × Option Instant × Option ℤ :=
  (row.replayVersion, row.replayState, row.replayLiveEndedAt, row.replayClosesAt,
    row.replayOnlineAt, row.replayDurationSec)

def scheduleRegister :
    Register (Option ℤ × Option Uuid × Option ScheduledDateFields) ℤ ScheduledDateFields :=
  .ofColumns fun fields => (some fields.showId, some fields)

def outcomeRegister :
    Register (Option ℤ × Option DateOutcome × Option Instant) ℤ DeclaredOutcome :=
  .ofColumns fun declared => (declared.outcome, declared.rescheduledTo)

def moveRegister :
    Register (Option ℤ × Option Instant × Option String × Option String) ℤ DateMove :=
  .ofColumns fun move => (some move.startsAt, move.slug, move.canonicalUrl)

def replayRegister : Register
    (Option ℤ × Option ReplayState × Option Instant × Option Instant × Option Instant × Option ℤ)
    ℤ StatedReplay :=
  .ofColumns fun replay => (some replay.state, some replay.liveEndedAt, some replay.closesAt,
    replay.onlineAt, replay.durationSec)

/-- A group takes exactly what is not older than it. -/
theorem isOlder_ofColumns {γ β : Type} (columns : β → γ) (kept : Option ℤ) (old : γ) (version : ℤ)
    (value : β) : (Register.ofColumns columns).isOlder (kept, old) (version, value) =
      !takes kept version := by
  unfold takes Register.isOlder Register.ofColumns
  cases kept with
  | none => rfl
  | some kept =>
      rcases lt_or_ge version kept with hlt | hle
      · simp [hlt]
      · simp [hle, not_lt.mpr hle]

/-- A group that takes what is not older than it is a register of its columns. -/
theorem part_taken {γ β : Type} (columns : β → γ) {part : DateProjection → Option ℤ × γ}
    {row row' : DateProjection} {kept : Option ℤ} {version : ℤ} {value : β}
    (hkept : (part row).1 = kept) (hpart : part row' = (some version, columns value)) :
    part ((if takes kept version then some row' else none).getD row) =
      (Register.ofColumns columns).deliver (part row) (version, value) := by
  have holder : (Register.ofColumns columns).isOlder (part row) (version, value) =
      !takes kept version := by
    rw [← hkept]
    exact isOlder_ofColumns columns (part row).1 (part row).2 version value
  unfold Register.deliver
  rw [holder]
  cases takes kept version with
  | true => exact hpart
  | false => rfl

/-- A group that another kind's fact leaves alone. -/
theorem part_frame {β : Type} {part : DateProjection → β} {row row' : DateProjection} {p : Prop}
    [Decidable p] (h : part row' = part row) :
    part ((if p then some row' else none).getD row) = part row := by
  split_ifs
  · exact h
  · rfl

theorem schedulePart_rowOf (row : DateProjection) (applied : List DateFact) :
    (rowOf row applied).schedulePart =
      (applied.filterMap DateFact.schedule).foldl scheduleRegister.deliver row.schedulePart := by
  refine scheduleRegister.foldl_part ?_ ?_ row applied
  · intro row fact stated hstated
    cases fact with
    | scheduled version fields =>
        cases hstated
        exact part_taken _ rfl rfl
    | _ => cases hstated
  · intro row fact hstated
    cases fact with
    | scheduled version fields => cases hstated
    | _ => exact part_frame rfl

theorem outcomePart_rowOf (row : DateProjection) (applied : List DateFact) :
    (rowOf row applied).outcomePart =
      (applied.filterMap DateFact.declaration).foldl outcomeRegister.deliver row.outcomePart := by
  refine outcomeRegister.foldl_part ?_ ?_ row applied
  · intro row fact stated hstated
    cases fact with
    | outcomeDeclared version declared =>
        cases hstated
        exact part_taken _ rfl rfl
    | _ => cases hstated
  · intro row fact hstated
    cases fact with
    | outcomeDeclared version declared => cases hstated
    | _ => exact part_frame rfl

theorem movePart_rowOf (row : DateProjection) (applied : List DateFact) :
    (rowOf row applied).movePart =
      (applied.filterMap DateFact.move).foldl moveRegister.deliver row.movePart := by
  refine moveRegister.foldl_part ?_ ?_ row applied
  · intro row fact stated hstated
    cases fact with
    | rescheduled version move =>
        cases hstated
        exact part_taken _ rfl rfl
    | _ => cases hstated
  · intro row fact hstated
    cases fact with
    | rescheduled version move => cases hstated
    | _ => exact part_frame rfl

theorem replayPart_rowOf (row : DateProjection) (applied : List DateFact) :
    (rowOf row applied).replayPart =
      (applied.filterMap DateFact.replayChange).foldl replayRegister.deliver row.replayPart := by
  refine replayRegister.foldl_part ?_ ?_ row applied
  · intro row fact stated hstated
    cases fact with
    | replayStateChanged version replay =>
        cases hstated
        exact part_taken _ rfl rfl
    | _ => cases hstated
  · intro row fact hstated
    cases fact with
    | replayStateChanged version replay => cases hstated
    | _ => exact part_frame rfl

end Parts

/-! ## The publication state -/

section Publication

variable {stated applied : List DateFact} {row : DateProjection} {fact : DateFact}
  {t : ℤ × Option PublicationState}

theorem rowOf_concat (row : DateProjection) (applied : List DateFact) (fact : DateFact) :
    rowOf row (applied ++ [fact]) =
      (dateAfter (rowOf row applied) fact).getD (rowOf row applied) := by
  unfold rowOf
  rw [List.foldl_append, List.foldl_cons, List.foldl_nil]

/-- What a fact does to the publication state: a schedule fills it in, a newer transition writes it,
anything else leaves it. -/
inductive PublicationMove (row : DateProjection) : DateFact → DateProjection → Prop
  | filled (version : ℤ) (fields : ScheduledDateFields) (row' : DateProjection) :
      row'.publicationState = row.publicationState.or (some .scheduled) →
      row'.publicationVersion = row.publicationVersion → row'.scheduled = some fields →
      PublicationMove row (.scheduled version fields) row'
  | written (version : ℤ) (state : Option PublicationState) (row' : DateProjection) :
      takes row.publicationVersion version = true → row'.publicationState = state →
      row'.publicationVersion = some version → row'.scheduled = row.scheduled →
      PublicationMove row (.stateChanged version state) row'
  | left (fact : DateFact) (row' : DateProjection) :
      (∀ t, fact.transition = some t → takes row.publicationVersion t.1 = false) →
      row'.publicationState = row.publicationState →
      row'.publicationVersion = row.publicationVersion → row'.scheduled = row.scheduled →
      PublicationMove row fact row'

theorem publicationMove (row : DateProjection) (fact : DateFact) :
    PublicationMove row fact ((dateAfter row fact).getD row) := by
  cases fact with
  | scheduled version fields =>
      simp only [dateAfter]
      split_ifs
      · exact .filled version fields _ rfl rfl rfl
      · exact .left _ _ (fun _ ht => by cases ht) rfl rfl rfl
  | stateChanged version state =>
      simp only [dateAfter]
      split_ifs with htakes
      · exact .written version state _ htakes rfl rfl rfl
      · refine .left _ _ (fun _ ht => ?_) rfl rfl rfl
        cases ht
        exact Bool.eq_false_iff.mpr htakes
  | outcomeDeclared version declared =>
      simp only [dateAfter]
      split_ifs <;> exact .left _ _ (fun _ ht => by cases ht) rfl rfl rfl
  | rescheduled version move =>
      simp only [dateAfter]
      split_ifs <;> exact .left _ _ (fun _ ht => by cases ht) rfl rfl rfl
  | replayStateChanged version replay =>
      simp only [dateAfter]
      split_ifs <;> exact .left _ _ (fun _ ht => by cases ht) rfl rfl rfl

/-- While no transition is known the schedule makes the date scheduled. -/
theorem publication_of_no_transition (dateId : Uuid)
    (hnone : applied.filterMap DateFact.transition = []) :
    (rowOf (.empty dateId) applied).publicationVersion = none ∧
      (rowOf (.empty dateId) applied).publicationState =
        (rowOf (.empty dateId) applied).scheduled.map fun _ => .scheduled := by
  induction applied using List.reverseRecOn with
  | nil => exact ⟨rfl, rfl⟩
  | append_singleton applied fact ih =>
      rw [List.filterMap_append, List.append_eq_nil_iff] at hnone
      obtain ⟨hversion, hstate⟩ := ih hnone.1
      rw [rowOf_concat]
      have hmove := publicationMove (rowOf (.empty dateId) applied) fact
      generalize (dateAfter (rowOf (.empty dateId) applied) fact).getD _ = row' at hmove
      cases hmove with
      | filled version fields _ hfilled hsame hscheduled =>
          refine ⟨hsame.trans hversion, ?_⟩
          rw [hfilled, hstate, hscheduled]
          cases (rowOf (.empty dateId) applied).scheduled <;> rfl
      | written version state _ htakes hwritten hnew hscheduled => cases hnone.2
      | left _ _ hrefused hsame hkept hscheduled =>
          refine ⟨hkept.trans hversion, ?_⟩
          rw [hsame, hstate, hscheduled]

/-- Once the newest transition is applied it decides, unless its state is unknown and a schedule
filled it in. -/
structure Decided (t : ℤ × Option PublicationState) (applied : List DateFact)
    (row : DateProjection) : Prop where
  below : ∀ version, row.publicationVersion = some version → version ≤ t.1
  decided : t ∈ applied.filterMap DateFact.transition → row.publicationVersion = some t.1 ∧
    (row.publicationState = t.2 ∨ (t.2 = none ∧ applied.filterMap DateFact.schedule ≠ []))

theorem decided_rowOf (dateId : Uuid)
    (hlatest : IsLatest (stated.filterMap DateFact.transition) t) (happlied : applied ⊆ stated) :
    Decided t applied (rowOf (.empty dateId) applied) := by
  induction applied using List.reverseRecOn with
  | nil => exact ⟨fun _ hversion => (by cases hversion), fun hmem => (by cases hmem)⟩
  | append_singleton applied fact ih =>
      obtain ⟨hsub, hfact⟩ := List.append_subset.mp happlied
      have hstated : fact ∈ stated := hfact (List.mem_singleton_self fact)
      obtain ⟨hbelow, hdecided⟩ := ih hsub
      rw [rowOf_concat]
      have hmove := publicationMove (rowOf (.empty dateId) applied) fact
      generalize (dateAfter (rowOf (.empty dateId) applied) fact).getD _ = row' at hmove
      cases hmove with
      | filled version fields _ hfilled hsame hscheduled =>
          refine ⟨fun v hv => hbelow v (hsame ▸ hv), fun hmem => ?_⟩
          rw [List.filterMap_append] at hmem ⊢
          have hbefore : t ∈ applied.filterMap DateFact.transition := by
            simpa [DateFact.transition] using hmem
          obtain ⟨hversion, hstate⟩ := hdecided hbefore
          refine ⟨hsame.trans hversion, ?_⟩
          cases hvalue : t.2 with
          | none => exact .inr ⟨rfl, by simp [DateFact.schedule]⟩
          | some value =>
              left
              rcases hstate with hstate | ⟨hnone, -⟩
              · rw [hfilled, hstate, hvalue]
                rfl
              · rw [hvalue] at hnone
                cases hnone
      | written version state _ htakes hwritten hnew hscheduled =>
          have hmem : (version, state) ∈ stated.filterMap DateFact.transition :=
            List.mem_filterMap.mpr ⟨_, hstated, rfl⟩
          constructor
          · intro v hv
            rw [hnew, Option.some.injEq] at hv
            rw [← hv]
            rcases hlatest.2 _ hmem with hlt | hsame
            · exact hlt.le
            · exact (congrArg Prod.fst hsame).le
          · intro hthere
            rw [List.filterMap_append, List.mem_append] at hthere
            -- An older transition is not taken over the newest.
            have hsame : (version, state) = t := by
              rcases hlatest.2 _ hmem with hlt | hsame
              · rcases hthere with hbefore | hnow
                · rw [(hdecided hbefore).1, takes, Option.all_some, decide_eq_true_eq] at htakes
                  exact absurd htakes (not_le.mpr hlt)
                · exact (List.mem_singleton.mp hnow).symm
              · exact hsame
            rw [← hsame]
            exact ⟨hnew, .inl hwritten⟩
      | left _ _ hrefused hsame hkept hscheduled =>
          refine ⟨fun v hv => hbelow v (hkept ▸ hv), fun hthere => ?_⟩
          rw [List.filterMap_append, List.mem_append] at hthere
          have hbefore : t ∈ applied.filterMap DateFact.transition := by
            rcases hthere with hbefore | hnow
            · exact hbefore
            · rw [List.mem_filterMap] at hnow
              obtain ⟨same, hsingle, htransition⟩ := hnow
              rw [List.mem_singleton.mp hsingle] at htransition
              have hrefuses := hrefused t htransition
              cases hversion : (rowOf (.empty dateId) applied).publicationVersion with
              | none =>
                  rw [hversion] at hrefuses
                  cases hrefuses
              | some v =>
                  rw [hversion, takes, Option.all_some, decide_eq_false_iff_not] at hrefuses
                  exact absurd (hbelow v hversion) hrefuses
          obtain ⟨hversion, hstate⟩ := hdecided hbefore
          refine ⟨hkept.trans hversion, ?_⟩
          rw [hsame]
          rcases hstate with hstate | ⟨hnone, hschedules⟩
          · exact .inl hstate
          · refine .inr ⟨hnone, ?_⟩
            rw [List.filterMap_append]
            simp [hschedules]

end Publication

/-! ## The document -/

section Composition

variable {stated applied : List DateFact} {α : Type} {field : ScheduledDateFields → α}
  {carried : DateMove → Option α} {s : ℤ × ScheduledDateFields} {m : ℤ × DateMove}

theorem Applies.mem_filterMap {φ β : Type} {stated applied : List φ} (h : Applies stated applied)
    (states : φ → Option β) (b : β) : b ∈ applied.filterMap states ↔ b ∈ stated.filterMap states := by
  simp only [List.mem_filterMap, h _]

theorem Applies.isLatest {φ β : Type} {stated applied : List φ} {states : φ → Option (ℤ × β)}
    {b : ℤ × β} (h : Applies stated applied) (hlatest : IsLatest (stated.filterMap states) b) :
    IsLatest (applied.filterMap states) b :=
  ⟨(h.mem_filterMap states b).mpr hlatest.1, fun other hother =>
    hlatest.2 other ((h.mem_filterMap states other).mp hother)⟩

theorem Applies.filterMap_eq_nil {φ β : Type} {stated applied : List φ} {states : φ → Option β}
    (h : Applies stated applied) (hnil : stated.filterMap states = []) :
    applied.filterMap states = [] := by
  rw [List.eq_nil_iff_forall_not_mem]
  intro a ha
  rw [h.mem_filterMap, hnil] at ha
  cases ha

theorem isLatest_le {β : Type} {statements : List (ℤ × β)} {latest other : ℤ × β}
    (h : IsLatest statements latest) (hother : other ∈ statements) : other.1 ≤ latest.1 := by
  rcases h.2 other hother with hlt | hsame
  · exact hlt.le
  · rw [hsame]

theorem eq_of_isLatest {β : Type} {statements : List (ℤ × β)} {latest other : ℤ × β}
    (h : IsLatest statements latest) (hother : other ∈ statements) (hle : latest.1 ≤ other.1) :
    other = latest := by
  rcases h.2 other hother with hlt | hsame
  · exact absurd hle (not_le.mpr hlt)
  · exact hsame

theorem mem_statementsOf {version : ℤ} {a : α} :
    (version, a) ∈ statementsOf field carried stated ↔
      (∃ s ∈ stated.filterMap DateFact.schedule, s.1 = version ∧ field s.2 = a) ∨
        (version, a) ∈ carriedBy carried stated := by
  unfold statementsOf
  rw [List.mem_append, List.mem_map]
  simp only [Prod.mk.injEq]

theorem mem_carriedBy {version : ℤ} {a : α} : (version, a) ∈ carriedBy carried stated ↔
    ∃ m ∈ stated.filterMap DateFact.move, m.1 = version ∧ carried m.2 = some a := by
  unfold carriedBy
  rw [List.mem_filterMap]
  constructor
  · rintro ⟨m, hm, hmap⟩
    obtain ⟨a', ha', hpair⟩ := Option.map_eq_some_iff.mp hmap
    rw [Prod.mk.injEq] at hpair
    exact ⟨m, hm, hpair.1, hpair.2 ▸ ha'⟩
  · rintro ⟨m, hm, rfl, ha⟩
    exact ⟨m, hm, by rw [ha]; rfl⟩

/-- A statement is the last when no schedule and no carrying move is newer. -/
theorem statedLast_of {version : ℤ} {a : α} (h : (version, a) ∈ statementsOf field carried stated)
    (hs : IsLatest (stated.filterMap DateFact.schedule) s) (hle : s.1 ≤ version)
    (hmoves : ∀ n ∈ carriedBy carried stated, n.1 ≤ version) :
    StatedLast (statementsOf field carried stated) a := by
  refine ⟨version, h, ?_⟩
  rintro ⟨v, b⟩ hother
  rcases mem_statementsOf.mp hother with ⟨s', hs', rfl, -⟩ | hmove
  · exact (isLatest_le hs hs').trans hle
  · exact hmoves _ hmove

/-- What the document says was stated last, no move being known. -/
theorem statedLast_schedule (hs : IsLatest (stated.filterMap DateFact.schedule) s)
    (hmoves : ∀ n ∈ carriedBy carried stated, n.1 ≤ s.1) :
    StatedLast (statementsOf field carried stated) (field s.2) :=
  statedLast_of (mem_statementsOf.mpr (.inl ⟨s, hs.1, rfl, rfl⟩)) hs le_rfl hmoves

/-- The statements newer than all others are the schedule's, or a carrying move's. -/
theorem StatedLast.cases {a : α} (h : StatedLast (statementsOf field carried stated) a)
    (hs : IsLatest (stated.filterMap DateFact.schedule) s) :
    field s.2 = a ∨ ∃ version, s.1 ≤ version ∧ (version, a) ∈ carriedBy carried stated ∧
      ∀ n ∈ carriedBy carried stated, n.1 ≤ version := by
  obtain ⟨version, hmem, hmax⟩ := h
  have hle : s.1 ≤ version := hmax (s.1, field s.2) (mem_statementsOf.mpr (.inl ⟨s, hs.1, rfl, rfl⟩))
  rcases mem_statementsOf.mp hmem with ⟨s', hs', rfl, hvalue⟩ | hmove
  · left
    rw [← eq_of_isLatest hs hs' hle]
    exact hvalue
  · refine .inr ⟨version, hle, hmove, ?_⟩
    rintro ⟨v, b⟩ hn
    exact hmax (v, b) (mem_statementsOf.mpr (.inr hn))

/-- What the newest move carries was stated last exactly when no schedule is newer, or the newest
states the same. -/
theorem statedLast_carried_iff {a : α} (hs : IsLatest (stated.filterMap DateFact.schedule) s)
    (hm : IsLatest (stated.filterMap DateFact.move) m) (ha : carried m.2 = some a) :
    StatedLast (statementsOf field carried stated) a ↔ s.1 ≤ m.1 ∨ field s.2 = a := by
  have hcarried : (m.1, a) ∈ carriedBy carried stated := mem_carriedBy.mpr ⟨m, hm.1, rfl, ha⟩
  have hmoves : ∀ n ∈ carriedBy carried stated, n.1 ≤ m.1 := by
    rintro ⟨v, b⟩ hn
    obtain ⟨m', hm', rfl, -⟩ := mem_carriedBy.mp hn
    exact isLatest_le hm hm'
  constructor
  · intro h
    rcases h.cases hs with hsame | ⟨version, hle, hmove, -⟩
    · exact .inr hsame
    · exact .inl (hle.trans (hmoves _ hmove))
  · rintro (hle | hsame)
    · exact statedLast_of (mem_statementsOf.mpr (.inr hcarried)) hs hle hmoves
    · rcases le_total s.1 m.1 with hle | hle
      · exact statedLast_of (mem_statementsOf.mpr (.inr hcarried)) hs hle hmoves
      · rw [← hsame]
        exact statedLast_schedule hs fun n hn => (hmoves n hn).trans hle

/-- What the newest schedule states was stated last exactly when no carrying move is newer, or the
newest of them carries the same. -/
theorem statedLast_schedule_iff (hversions : Versioned (stated.filterMap DateFact.move))
    (hs : IsLatest (stated.filterMap DateFact.schedule) s) :
    StatedLast (statementsOf field carried stated) (field s.2) ↔
      ∀ n, IsLatest (carriedBy carried stated) n → n.1 ≤ s.1 ∨ n.2 = field s.2 := by
  constructor
  · intro h n hn
    obtain ⟨version, hmem, hmax⟩ := h
    rcases le_or_gt n.1 s.1 with hle | hlt
    · exact .inl hle
    · right
      have hnewer : n.1 ≤ version := hmax n (mem_statementsOf.mpr (.inr hn.1))
      rcases mem_statementsOf.mp hmem with ⟨s', hs', rfl, -⟩ | hmove
      · exact absurd (isLatest_le hs hs') (not_le.mpr (hlt.trans_le hnewer))
      · rw [← eq_of_isLatest hn hmove hnewer]
  · intro h
    by_cases hnil : carriedBy carried stated = []
    · exact statedLast_schedule hs (by simp [hnil])
    · have hcarried : ∀ a ∈ carriedBy carried stated, ∀ b ∈ carriedBy carried stated,
          a.1 = b.1 → a = b := by
        rintro ⟨v, a⟩ ha ⟨w, b⟩ hb rfl
        obtain ⟨m, hm, rfl, hma⟩ := mem_carriedBy.mp ha
        obtain ⟨m', hm', hsame, hmb⟩ := mem_carriedBy.mp hb
        rw [hversions m' hm' m hm hsame, hma] at hmb
        rw [Option.some.inj hmb]
      obtain ⟨n, hn⟩ := exists_isLatest hnil hcarried
      rcases h n hn with hle | hsame
      · exact statedLast_schedule hs fun n' hn' => (isLatest_le hn hn').trans hle
      · rcases le_total n.1 s.1 with hle | hle
        · exact statedLast_schedule hs fun n' hn' => (isLatest_le hn hn').trans hle
        · rw [← hsame]
          exact statedLast_of (mem_statementsOf.mpr (.inr hn.1)) hs hle fun n' hn' =>
            isLatest_le hn hn'

end Composition

/-! ## The rows of a date -/

section Rows

variable {stated applied applied' : List DateFact} {dateId : Uuid}
  {s : ℤ × ScheduledDateFields} {m : ℤ × DateMove}

theorem dateId_rowOf (row : DateProjection) (applied : List DateFact) :
    (rowOf row applied).dateId = row.dateId := by
  induction applied using List.reverseRecOn with
  | nil => rfl
  | append_singleton applied fact ih =>
      rw [rowOf_concat]
      cases fact with
      | _ =>
          simp only [dateAfter]
          split_ifs <;> exact ih

/-- A part that receives statements ends alike when it receives the same ones. -/
theorem foldl_deliver_eq {σ α : Type} (r : Register σ ℤ α) {states : DateFact → Option (ℤ × α)}
    (hversions : Versioned (stated.filterMap states)) (h : Applies stated applied)
    (h' : Applies stated applied') (kept : σ) :
    (applied.filterMap states).foldl r.deliver kept =
      (applied'.filterMap states).foldl r.deliver kept := by
  have hsame : ∀ a, a ∈ applied.filterMap states ↔ a ∈ applied'.filterMap states := fun a =>
    (h.mem_filterMap states a).trans (h'.mem_filterMap states a).symm
  refine r.foldl_deliver_congr ?_ hsame
  intro a ha b hb
  exact hversions a ((h.mem_filterMap states a).mp ha) b ((h.mem_filterMap states b).mp hb)

variable (dateId) in
theorem schedulePart_of_isLatest (hs : IsLatest (stated.filterMap DateFact.schedule) s)
    (h : Applies stated applied) : (rowOf (.empty dateId) applied).schedulePart =
      (some s.1, some s.2.showId, some s.2) := by
  rw [schedulePart_rowOf, scheduleRegister.foldl_deliver_of_isLatest (h.isLatest hs)]
  rfl

variable (dateId) in
theorem movePart_of_isLatest (hm : IsLatest (stated.filterMap DateFact.move) m)
    (h : Applies stated applied) : (rowOf (.empty dateId) applied).movePart =
      (some m.1, some m.2.startsAt, m.2.slug, m.2.canonicalUrl) := by
  rw [movePart_rowOf, moveRegister.foldl_deliver_of_isLatest (h.isLatest hm)]
  rfl

variable (dateId) in
theorem movePart_of_nil (hnil : stated.filterMap DateFact.move = [])
    (h : Applies stated applied) : (rowOf (.empty dateId) applied).movePart =
      (none, none, none, none) := by
  rw [movePart_rowOf, h.filterMap_eq_nil hnil]
  rfl

/-- A date whose schedule is known has a newest one. -/
theorem exists_schedule (hversions : DistinctVersions stated) (h : Applies stated applied)
    {scheduled : ScheduledDateFields}
    (hscheduled : (rowOf (.empty dateId) applied).scheduled = some scheduled) :
    ∃ s, IsLatest (stated.filterMap DateFact.schedule) s ∧ s.2 = scheduled := by
  by_cases hnil : stated.filterMap DateFact.schedule = []
  · have hpart := schedulePart_rowOf (.empty dateId) applied
    rw [h.filterMap_eq_nil hnil] at hpart
    have hcolumn : (rowOf (.empty dateId) applied).scheduled = none :=
      congrArg (fun part => part.2.2) hpart
    rw [hcolumn] at hscheduled
    cases hscheduled
  · obtain ⟨s, hs⟩ := exists_isLatest hnil hversions.schedules
    refine ⟨s, hs, ?_⟩
    have hcolumn : (rowOf (.empty dateId) applied).scheduled = some s.2 :=
      congrArg (fun part => part.2.2) (schedulePart_of_isLatest dateId hs h)
    exact Option.some.inj (hcolumn.symm.trans hscheduled)

/-- No schedule fills in over a newest transition to an unknown state. -/
def TransitionsKnown (stated : List DateFact) : Prop :=
  ∀ t, IsLatest (stated.filterMap DateFact.transition) t → t.2 = none →
    stated.filterMap DateFact.schedule = []

variable (dateId) in
theorem publication_decided (hknown : TransitionsKnown stated) (h : Applies stated applied)
    {t : ℤ × Option PublicationState}
    (ht : IsLatest (stated.filterMap DateFact.transition) t) :
    (rowOf (.empty dateId) applied).publicationVersion = some t.1 ∧
      (rowOf (.empty dateId) applied).publicationState = t.2 := by
  have hsub : applied ⊆ stated := fun fact hfact => (h fact).mp hfact
  obtain ⟨hversion, hstate⟩ := (decided_rowOf dateId ht hsub).decided
    ((h.mem_filterMap _ t).mpr ht.1)
  refine ⟨hversion, ?_⟩
  rcases hstate with hstate | ⟨hnone, hschedules⟩
  · exact hstate
  · exact absurd (h.filterMap_eq_nil (hknown t ht hnone)) hschedules

theorem DateProjection.eq_of_parts {row row' : DateProjection} (hdate : row.dateId = row'.dateId)
    (hschedule : row.schedulePart = row'.schedulePart)
    (hstate : row.publicationState = row'.publicationState)
    (hversion : row.publicationVersion = row'.publicationVersion)
    (houtcome : row.outcomePart = row'.outcomePart) (hmove : row.movePart = row'.movePart)
    (hreplay : row.replayPart = row'.replayPart) : row = row' := by
  cases row
  cases row'
  simp only [DateProjection.schedulePart, DateProjection.outcomePart, DateProjection.movePart,
    DateProjection.replayPart, Prod.mk.injEq] at *
  simp [*]

/-- Two rows the same facts were applied to are the same. -/
theorem rowOf_eq (hversions : DistinctVersions stated) (hknown : TransitionsKnown stated)
    (h : Applies stated applied) (h' : Applies stated applied') :
    rowOf (.empty dateId) applied = rowOf (.empty dateId) applied' := by
  have hschedule : (rowOf (.empty dateId) applied).schedulePart =
      (rowOf (.empty dateId) applied').schedulePart := by
    rw [schedulePart_rowOf, schedulePart_rowOf]
    exact foldl_deliver_eq scheduleRegister hversions.schedules h h' _
  have hpublication : (rowOf (.empty dateId) applied).publicationVersion =
        (rowOf (.empty dateId) applied').publicationVersion ∧
      (rowOf (.empty dateId) applied).publicationState =
        (rowOf (.empty dateId) applied').publicationState := by
    by_cases hnil : stated.filterMap DateFact.transition = []
    · obtain ⟨hversion, hstate⟩ :=
        publication_of_no_transition dateId (h.filterMap_eq_nil hnil)
      obtain ⟨hversion', hstate'⟩ :=
        publication_of_no_transition dateId (h'.filterMap_eq_nil hnil)
      have hscheduled : (rowOf (.empty dateId) applied).scheduled =
          (rowOf (.empty dateId) applied').scheduled := congrArg (fun part => part.2.2) hschedule
      rw [hversion, hversion', hstate, hstate', hscheduled]
      exact ⟨rfl, rfl⟩
    · obtain ⟨t, ht⟩ := exists_isLatest hnil hversions.transitions
      obtain ⟨hversion, hstate⟩ := publication_decided dateId hknown h ht
      obtain ⟨hversion', hstate'⟩ := publication_decided dateId hknown h' ht
      exact ⟨hversion.trans hversion'.symm, hstate.trans hstate'.symm⟩
  refine DateProjection.eq_of_parts ?_ hschedule hpublication.2 hpublication.1 ?_ ?_ ?_
  · rw [dateId_rowOf, dateId_rowOf]
  · rw [outcomePart_rowOf, outcomePart_rowOf]
    exact foldl_deliver_eq outcomeRegister hversions.declarations h h' _
  · rw [movePart_rowOf, movePart_rowOf]
    exact foldl_deliver_eq moveRegister hversions.moves h h' _
  · rw [replayPart_rowOf, replayPart_rowOf]
    exact foldl_deliver_eq replayRegister hversions.replayChanges h h' _

/-- What a document composes of a schedule's field and what a move carries over it. -/
theorem statedLast_composed_iff {α : Type} {field : ScheduledDateFields → α}
    {carried : DateMove → Option α} (hversions : DistinctVersions stated)
    (hs : IsLatest (stated.filterMap DateFact.schedule) s) {value : α}
    (hvalue : ∀ m, IsLatest (stated.filterMap DateFact.move) m →
      value = (carried m.2).getD (field s.2))
    (hnone : stated.filterMap DateFact.move = [] → value = field s.2) :
    StatedLast (statementsOf field carried stated) value ↔
      ComposesOver field carried stated s := by
  by_cases hnil : stated.filterMap DateFact.move = []
  · rw [hnone hnil]
    refine iff_of_true (statedLast_schedule hs (by simp [carriedBy, hnil])) ?_
    intro m hm
    rw [hnil] at hm
    cases hm.1
  · obtain ⟨m, hm⟩ := exists_isLatest hnil hversions.moves
    have honly : ∀ m', IsLatest (stated.filterMap DateFact.move) m' → m' = m := fun m' hm' =>
      eq_of_isLatest hm hm'.1 (isLatest_le hm' hm.1)
    rw [hvalue m hm]
    have hcondition : StatedLast (statementsOf field carried stated)
        ((carried m.2).getD (field s.2)) ↔ match carried m.2 with
          | some a => s.1 ≤ m.1 ∨ field s.2 = a
          | none => ∀ n, IsLatest (carriedBy carried stated) n → n.1 ≤ s.1 ∨ n.2 = field s.2 := by
      cases hcarried : carried m.2 with
      | some a => exact statedLast_carried_iff hs hm hcarried
      | none => exact statedLast_schedule_iff hversions.moves hs
    rw [hcondition]
    constructor
    · intro h m' hm'
      rw [honly m' hm']
      exact h
    · intro h
      exact h m hm

/-- A schedule applied last fills in an unknown state. -/
theorem publicationState_rescheduled (hs : IsLatest (stated.filterMap DateFact.schedule) s) :
    (rowOf (.empty dateId) (stated ++ [.scheduled s.1 s.2])).publicationState ≠ none := by
  have hpart := schedulePart_of_isLatest dateId hs (Applies.refl stated)
  simp only [DateProjection.schedulePart, Prod.mk.injEq] at hpart
  rw [rowOf_concat, dateAfter, hpart.1, takes, Option.all_some, if_pos (by simp), Option.getD_some]
  cases (rowOf (.empty dateId) stated).publicationState <;> simp

theorem applies_concat {φ : Type} {stated : List φ} {fact : φ} (h : fact ∈ stated) :
    Applies stated (stated ++ [fact]) := by
  intro other
  rw [List.mem_append, List.mem_singleton, or_iff_left_of_imp]
  rintro rfl
  exact h

theorem scheduled_mem (hs : s ∈ stated.filterMap DateFact.schedule) :
    DateFact.scheduled s.1 s.2 ∈ stated := by
  obtain ⟨fact, hfact, hschedule⟩ := List.mem_filterMap.mp hs
  cases fact with
  | scheduled version fields =>
      cases hschedule
      exact hfact
  | _ => cases hschedule

variable [TimingRules]

variable (dateId) in
/-- What a date's document takes from its newest move, else from its schedule. -/
theorem document_composed (h : Applies stated applied) (scheduled : ScheduledDateFields)
    (shown : Option ShowProjection) (artist : Option ArtistFace) (indexedAt : Instant) :
    let document := dateDocumentOf (rowOf (.empty dateId) applied) scheduled shown artist indexedAt
    (∀ m, IsLatest (stated.filterMap DateFact.move) m →
      document.startsAt = m.2.startsAt ∧ document.slug = m.2.slug.getD scheduled.slug ∧
        document.canonicalUrl = m.2.canonicalUrl.getD scheduled.canonicalUrl) ∧
    (stated.filterMap DateFact.move = [] →
      document.startsAt = scheduled.startsAt ∧ document.slug = scheduled.slug ∧
        document.canonicalUrl = scheduled.canonicalUrl) := by
  constructor
  · intro m hm
    have hpart := movePart_of_isLatest dateId hm h
    simp only [DateProjection.movePart, Prod.mk.injEq] at hpart
    obtain ⟨-, hstarts, hslug, hurl⟩ := hpart
    simp [dateDocumentOf, hstarts, hslug, hurl]
  · intro hnil
    have hpart := movePart_of_nil dateId hnil h
    simp only [DateProjection.movePart, Prod.mk.injEq] at hpart
    obtain ⟨-, hstarts, hslug, hurl⟩ := hpart
    simp [dateDocumentOf, hstarts, hslug, hurl]

variable (dateId) in
/-- When a document's start, slug and URL are the last stated. -/
theorem document_statedLast_iff (hversions : DistinctVersions stated)
    (hs : IsLatest (stated.filterMap DateFact.schedule) s) (h : Applies stated applied)
    (shown : Option ShowProjection) (artist : Option ArtistFace) (indexedAt : Instant) :
    let document := dateDocumentOf (rowOf (.empty dateId) applied) s.2 shown artist indexedAt
    (StatedLast (statementsOf (fun fields => fields.startsAt) (fun move => some move.startsAt)
      stated) document.startsAt ↔
        ComposesOver (fun fields => fields.startsAt) (fun move => some move.startsAt) stated s) ∧
    (StatedLast (statementsOf (fun fields => fields.slug) (fun move => move.slug) stated)
      document.slug ↔ ComposesOver (fun fields => fields.slug) (fun move => move.slug) stated s) ∧
    (StatedLast (statementsOf (fun fields => fields.canonicalUrl) (fun move => move.canonicalUrl)
      stated) document.canonicalUrl ↔
        ComposesOver (fun fields => fields.canonicalUrl) (fun move => move.canonicalUrl)
          stated s) := by
  obtain ⟨hmoved, hunmoved⟩ :=
    document_composed dateId h s.2 shown artist indexedAt
  refine ⟨?_, ?_, ?_⟩
  · exact statedLast_composed_iff hversions hs (fun m hm => (hmoved m hm).1)
      fun hnil => (hunmoved hnil).1
  · exact statedLast_composed_iff hversions hs (fun m hm => (hmoved m hm).2.1)
      fun hnil => (hunmoved hnil).2.1
  · exact statedLast_composed_iff hversions hs (fun m hm => (hmoved m hm).2.2)
      fun hnil => (hunmoved hnil).2.2

/-- The rows of a date converge exactly when no schedule fills in over a newest transition to an
unknown state, and what a document takes from the newest move is the last stated. -/
theorem dateConverges_iff (hversions : DistinctVersions stated) :
    DateConverges dateId stated ↔ TransitionsKnown stated ∧
      Composes (fun fields => fields.startsAt) (fun move => some move.startsAt) stated ∧
      Composes (fun fields => fields.slug) (fun move => move.slug) stated ∧
      Composes (fun fields => fields.canonicalUrl) (fun move => move.canonicalUrl) stated := by
  constructor
  · intro h
    have hdocument : ∀ s, IsLatest (stated.filterMap DateFact.schedule) s →
        ComposesOver (fun fields => fields.startsAt) (fun move => some move.startsAt) stated s ∧
        ComposesOver (fun fields => fields.slug) (fun move => move.slug) stated s ∧
        ComposesOver (fun fields => fields.canonicalUrl) (fun move => move.canonicalUrl)
          stated s := by
      intro s hs
      have hscheduled : (rowOf (.empty dateId) stated).scheduled = some s.2 :=
        congrArg (fun part => part.2.2) (schedulePart_of_isLatest dateId hs (Applies.refl stated))
      obtain ⟨hstarts, hslug, hurl, -⟩ :=
        h.document stated s.2 none 0 none (fun _ => Iff.rfl) hscheduled
      obtain ⟨hstartsIff, hslugIff, hurlIff⟩ := document_statedLast_iff dateId
        hversions hs (Applies.refl stated) none none 0
      exact ⟨hstartsIff.mp hstarts, hslugIff.mp hslug, hurlIff.mp hurl⟩
    refine ⟨?_, fun s hs => (hdocument s hs).1, fun s hs => (hdocument s hs).2.1,
      fun s hs => (hdocument s hs).2.2⟩
    intro t ht hnone
    by_contra hnil
    obtain ⟨s, hs⟩ := exists_isLatest hnil hversions.schedules
    have hlast := (h.publication _ (applies_concat (scheduled_mem hs.1))).1 t ht
    rw [hnone] at hlast
    exact publicationState_rescheduled hs hlast
  · rintro ⟨hknown, hstarts, hslug, hurl⟩
    refine ⟨fun applied applied' => rowOf_eq hversions hknown, ?_, ?_⟩
    · intro applied h
      refine ⟨fun t ht => (publication_decided dateId hknown h ht).2, fun hnil => ?_⟩
      exact (publication_of_no_transition dateId (h.filterMap_eq_nil hnil)).2
    · intro applied scheduled artist indexedAt shown h hscheduled
      obtain ⟨s, hs, rfl⟩ := exists_schedule hversions h hscheduled
      obtain ⟨hstartsIff, hslugIff, hurlIff⟩ := document_statedLast_iff dateId
        hversions hs h shown artist indexedAt
      exact ⟨hstartsIff.mpr (hstarts s hs), hslugIff.mpr (hslug s hs), hurlIff.mpr (hurl s hs), rfl,
        rfl⟩

end Rows

/-! ## The row of a show -/

/-- The row once the facts are applied, each under its trace context. -/
def showRowOf (row : ShowProjection) (applied : List (ShowFact × Option String)) :
    ShowProjection :=
  applied.foldl (fun row fact => (showAfter row fact.1 fact.2).getD row) row

/-- A row, its trace context aside. -/
def ShowProjection.untraced (row : ShowProjection) : ShowProjection :=
  { row with traceparent := none }

/-- Facts about one show, the versions of a kind pairwise distinct. -/
def DistinctShowVersions (stated : List ShowFact) : Prop :=
  ∀ f ∈ stated, ∀ g ∈ stated, f.published.isSome = g.published.isSome → f.version = g.version → f = g

/-- Whatever order a show's facts are applied in, and however often, its row ends the same. -/
def ShowConverges (showId : Uuid) (stated : List ShowFact) : Prop :=
  ∀ applied applied', Applies stated (applied.map Prod.fst) →
    Applies stated (applied'.map Prod.fst) →
      (showRowOf (.empty showId) applied).untraced = (showRowOf (.empty showId) applied').untraced

/-- The newest fact is not both a publication and an update that differ. -/
def NewestAgree (stated : List ShowFact) : Prop :=
  ∀ f ∈ stated, ∀ g ∈ stated, (∀ other ∈ stated, other.version ≤ f.version) →
    g.version = f.version → g.updatable = f.updatable

section Shows

variable {stated : List ShowFact} {applied applied' : List (ShowFact × Option String)}
  {row : ShowProjection} {fact : ShowFact} {traceparent : Option String} {showId : Uuid}

def ShowProjection.publishedPart (row : ShowProjection) :
    Option ℤ × Option PublishedShowFields := (row.publishedVersion, row.published)

def ShowProjection.updatablePart (row : ShowProjection) :
    Option ℤ × Option UpdatableShowFields := (row.updatableVersion, row.updatable)

def publishedRegister : Register (Option ℤ × Option PublishedShowFields) ℤ PublishedShowFields :=
  .ofColumns some

def updatableRegister : Register (Option ℤ × Option UpdatableShowFields) ℤ UpdatableShowFields :=
  .ofColumns some

def ShowFact.publication (fact : ShowFact) : Option (ℤ × PublishedShowFields) :=
  fact.published.map fun fields => (fact.version, fields)

def ShowFact.update (fact : ShowFact) : Option (ℤ × UpdatableShowFields) :=
  some (fact.version, fact.updatable)

theorem updatablePart_showAfter (row : ShowProjection) (fact : ShowFact)
    (traceparent : Option String) : ((showAfter row fact traceparent).getD row).updatablePart =
      updatableRegister.deliver row.updatablePart (fact.version, fact.updatable) := by
  unfold Register.deliver updatableRegister
  rw [show row.updatablePart = (row.updatableVersion, row.updatable) from rfl, isOlder_ofColumns]
  simp only [showAfter]
  cases htakes : takes row.updatableVersion fact.version with
  | true =>
      rw [Bool.not_true, Bool.and_false, if_neg Bool.false_ne_true, if_neg Bool.false_ne_true]
      rfl
  | false =>
      cases fact.published.isSome && takes row.publishedVersion fact.version with
      | true => rfl
      | false => rfl

theorem publishedPart_showAfter (row : ShowProjection) (fact : ShowFact)
    (traceparent : Option String) {fields : PublishedShowFields}
    (hpublished : fact.published = some fields) :
    ((showAfter row fact traceparent).getD row).publishedPart =
      publishedRegister.deliver row.publishedPart (fact.version, fields) := by
  unfold Register.deliver publishedRegister
  rw [show row.publishedPart = (row.publishedVersion, row.published) from rfl, isOlder_ofColumns]
  simp only [showAfter, hpublished, Option.isSome_some, Bool.true_and]
  cases htakes : takes row.publishedVersion fact.version with
  | true => rfl
  | false =>
      cases takes row.updatableVersion fact.version with
      | true => rfl
      | false => rfl

theorem publishedPart_update (row : ShowProjection) (fact : ShowFact)
    (traceparent : Option String) (hpublished : fact.published = none) :
    ((showAfter row fact traceparent).getD row).publishedPart = row.publishedPart := by
  simp only [showAfter, hpublished, Option.isSome_none, Bool.false_and]
  cases takes row.updatableVersion fact.version with
  | true => rfl
  | false => rfl

theorem showId_showAfter (row : ShowProjection) (fact : ShowFact) (traceparent : Option String) :
    ((showAfter row fact traceparent).getD row).showId = row.showId := by
  simp only [showAfter]
  split_ifs <;> rfl

/-- The version is the newest of the facts, a superseded one being older than what superseded it. -/
theorem version_showAfter (row : ShowProjection) (fact : ShowFact) (traceparent : Option String)
    (hbelow : ∀ v, row.updatableVersion = some v → v ≤ row.version) :
    ((showAfter row fact traceparent).getD row).version = max row.version fact.version := by
  simp only [showAfter]
  split_ifs with hrefused
  · rw [Option.getD_none]
    rw [Bool.and_eq_true, Bool.not_eq_true', Bool.not_eq_true'] at hrefused
    obtain ⟨-, hrefused⟩ := hrefused
    cases hversion : row.updatableVersion with
    | none =>
        rw [hversion] at hrefused
        cases hrefused
    | some v =>
        rw [hversion, takes, Option.all_some, decide_eq_false_iff_not, not_le] at hrefused
        exact (max_eq_left (hrefused.le.trans (hbelow v hversion))).symm
  all_goals rfl

theorem updatableVersion_showAfter (row : ShowProjection) (fact : ShowFact)
    (traceparent : Option String) {v : ℤ}
    (hv : ((showAfter row fact traceparent).getD row).updatableVersion = some v) :
    row.updatableVersion = some v ∨ v = fact.version := by
  simp only [showAfter] at hv
  cases htakes : takes row.updatableVersion fact.version with
  | true =>
      rw [htakes, Bool.not_true, Bool.and_false, if_neg Bool.false_ne_true] at hv
      exact .inr (Option.some.inj hv).symm
  | false =>
      left
      rw [htakes] at hv
      cases hmoves : fact.published.isSome && takes row.publishedVersion fact.version with
      | true =>
          rw [hmoves] at hv
          exact hv
      | false =>
          rw [hmoves] at hv
          exact hv

/-- What a show's row says of the facts applied. -/
structure ShowSays (applied : List (ShowFact × Option String)) (row : ShowProjection) : Prop where
  nonneg : 0 ≤ row.version
  above : ∀ f ∈ applied, f.1.version ≤ row.version
  reached : row.version = 0 ∨ ∃ f ∈ applied, f.1.version = row.version
  updatable : ∀ v, row.updatableVersion = some v → ∃ f ∈ applied, f.1.version = v

theorem showRowOf_concat (row : ShowProjection) (applied : List (ShowFact × Option String))
    (fact : ShowFact × Option String) : showRowOf row (applied ++ [fact]) =
      (showAfter (showRowOf row applied) fact.1 fact.2).getD (showRowOf row applied) := by
  unfold showRowOf
  rw [List.foldl_append, List.foldl_cons, List.foldl_nil]

theorem showSays_showRowOf (showId : Uuid) (applied : List (ShowFact × Option String)) :
    ShowSays applied (showRowOf (.empty showId) applied) := by
  induction applied using List.reverseRecOn with
  | nil => exact ⟨le_rfl, by simp, .inl rfl, fun _ hv => (by cases hv)⟩
  | append_singleton applied fact ih =>
      obtain ⟨hnonneg, habove, hreached, hupdatable⟩ := ih
      have hbelow : ∀ v, (showRowOf (.empty showId) applied).updatableVersion = some v →
          v ≤ (showRowOf (.empty showId) applied).version := by
        intro v hv
        obtain ⟨f, hf, rfl⟩ := hupdatable v hv
        exact habove f hf
      have hversion := version_showAfter (showRowOf (.empty showId) applied) fact.1 fact.2 hbelow
      rw [← showRowOf_concat] at hversion
      refine ⟨?_, ?_, ?_, ?_⟩
      · rw [hversion]
        exact hnonneg.trans (le_max_left _ _)
      · rw [hversion, List.forall_mem_append, List.forall_mem_singleton]
        exact ⟨fun f hf => (habove f hf).trans (le_max_left _ _), le_max_right _ _⟩
      · rw [hversion]
        rcases le_total fact.1.version (showRowOf (.empty showId) applied).version with hle | hle
        · rw [max_eq_left hle]
          rcases hreached with hzero | ⟨f, hf, hsame⟩
          · exact .inl hzero
          · exact .inr ⟨f, List.mem_append_left _ hf, hsame⟩
        · rw [max_eq_right hle]
          exact .inr ⟨fact, by simp, rfl⟩
      · intro v hv
        rw [showRowOf_concat] at hv
        rcases updatableVersion_showAfter _ _ _ hv with hbefore | hnow
        · obtain ⟨f, hf, hsame⟩ := hupdatable v hbefore
          exact ⟨f, List.mem_append_left _ hf, hsame⟩
        · exact ⟨fact, by simp, hnow.symm⟩

theorem publishedPart_showRowOf (row : ShowProjection)
    (applied : List (ShowFact × Option String)) : (showRowOf row applied).publishedPart =
      ((applied.map Prod.fst).filterMap ShowFact.publication).foldl publishedRegister.deliver
        row.publishedPart := by
  rw [List.filterMap_map]
  refine publishedRegister.foldl_part ?_ ?_ row applied
  · intro row fact stated hstated
    obtain ⟨fields, hfields, rfl⟩ := Option.map_eq_some_iff.mp hstated
    exact publishedPart_showAfter row fact.1 fact.2 hfields
  · intro row fact hnone
    exact publishedPart_update row fact.1 fact.2 (Option.map_eq_none_iff.mp hnone)

theorem updatablePart_showRowOf (row : ShowProjection)
    (applied : List (ShowFact × Option String)) : (showRowOf row applied).updatablePart =
      ((applied.map Prod.fst).filterMap ShowFact.update).foldl updatableRegister.deliver
        row.updatablePart := by
  rw [List.filterMap_map]
  refine updatableRegister.foldl_part ?_ ?_ row applied
  · intro row fact stated hstated
    cases hstated
    exact updatablePart_showAfter row fact.1 fact.2
  · intro row fact hnone
    cases hnone

theorem showId_showRowOf (row : ShowProjection) (applied : List (ShowFact × Option String)) :
    (showRowOf row applied).showId = row.showId := by
  induction applied using List.reverseRecOn with
  | nil => rfl
  | append_singleton applied fact ih =>
      rw [showRowOf_concat, showId_showAfter]
      exact ih

/-- The newest fact's updatable group is the one kept. -/
theorem updatablePart_of_newest (hnewest : IsLatest (stated.filterMap ShowFact.update)
      (fact.version, fact.updatable)) (h : Applies stated (applied.map Prod.fst)) :
    (showRowOf (.empty showId) applied).updatablePart =
      (some fact.version, some fact.updatable) := by
  rw [updatablePart_showRowOf, updatableRegister.foldl_deliver_of_isLatest (h.isLatest hnewest)]
  rfl

/-- The newest fact is the last statement of the updatable group. -/
theorem isLatest_update (hagree : NewestAgree stated) (hfact : fact ∈ stated)
    (hmax : ∀ other ∈ stated, other.version ≤ fact.version) :
    IsLatest (stated.filterMap ShowFact.update) (fact.version, fact.updatable) := by
  refine ⟨List.mem_filterMap.mpr ⟨fact, hfact, rfl⟩, ?_⟩
  intro stated' hstated'
  obtain ⟨other, hother, hupdate⟩ := List.mem_filterMap.mp hstated'
  cases hupdate
  rcases (hmax other hother).lt_or_eq with hlt | hsame
  · exact .inl hlt
  · right
    rw [hsame, hagree fact hfact other hother hmax hsame]

theorem exists_newest (hne : stated ≠ []) :
    ∃ fact ∈ stated, ∀ other ∈ stated, other.version ≤ fact.version := by
  obtain ⟨first, hfirst⟩ := List.exists_mem_of_ne_nil stated hne
  obtain ⟨fact, hfact, hmax⟩ := Finset.exists_max_image stated.toFinset ShowFact.version
    ⟨first, List.mem_toFinset.mpr hfirst⟩
  exact ⟨fact, List.mem_toFinset.mp hfact, fun other hother =>
    hmax other (List.mem_toFinset.mpr hother)⟩

/-- Both rows are as new as their newest fact. -/
theorem version_showRowOf (h : Applies stated (applied.map Prod.fst))
    (h' : Applies stated (applied'.map Prod.fst)) :
    (showRowOf (.empty showId) applied).version ≤ (showRowOf (.empty showId) applied').version := by
  have hsays := showSays_showRowOf showId applied
  have hsays' := showSays_showRowOf showId applied'
  rcases hsays.reached with hzero | ⟨f, hf, hsame⟩
  · rw [hzero]
    exact hsays'.nonneg
  · rw [← hsame]
    obtain ⟨f', hf', hfact⟩ := List.mem_map.mp ((h' f.1).mpr ((h f.1).mp (List.mem_map_of_mem hf)))
    rw [← hfact]
    exact hsays'.above f' hf'

/-- A fact no older than the updatable group is the one it holds. -/
theorem updatable_of_takes (row : ShowProjection) (fact : ShowFact) (traceparent : Option String)
    (htakes : takes row.updatableVersion fact.version = true) :
    ((showAfter row fact traceparent).getD row).updatable = some fact.updatable := by
  simp only [showAfter, htakes]
  rw [Bool.not_true, Bool.and_false, if_neg Bool.false_ne_true]
  rfl

/-- A newest fact applied last holds the updatable group. -/
theorem updatable_of_last (hmax : ∀ other ∈ stated, other.version ≤ fact.version) :
    (showRowOf (.empty showId) ((stated ++ [fact]).map fun f => (f, none))).updatable =
      some fact.updatable := by
  rw [List.map_append, List.map_singleton, showRowOf_concat]
  apply updatable_of_takes
  cases hkept : (showRowOf (.empty showId) (stated.map fun f => (f, none))).updatableVersion with
  | none => rfl
  | some v =>
      obtain ⟨kept, hmem, hversion⟩ := (showSays_showRowOf showId _).updatable v hkept
      obtain ⟨other, hother, rfl⟩ := List.mem_map.mp hmem
      rw [takes, Option.all_some, decide_eq_true_eq, ← hversion]
      exact hmax other hother

theorem publication_versioned (hversions : DistinctShowVersions stated) :
    Versioned (stated.filterMap ShowFact.publication) := by
  rintro a ha b hb hsame
  obtain ⟨f, hf, hpublication⟩ := List.mem_filterMap.mp ha
  obtain ⟨g, hg, hpublication'⟩ := List.mem_filterMap.mp hb
  obtain ⟨fields, hfields, rfl⟩ := Option.map_eq_some_iff.mp hpublication
  obtain ⟨fields', hfields', rfl⟩ := Option.map_eq_some_iff.mp hpublication'
  have hfact : f = g := hversions f hf g hg (by rw [hfields, hfields']; rfl) hsame
  rw [hfact, hfields', Option.some.injEq] at hfields
  rw [hfact, hfields]

theorem ShowProjection.untraced_eq_of_parts {row row' : ShowProjection}
    (hshow : row.showId = row'.showId) (hversion : row.version = row'.version)
    (hpublished : row.publishedPart = row'.publishedPart)
    (hupdatable : row.updatablePart = row'.updatablePart) : row.untraced = row'.untraced := by
  cases row
  cases row'
  simp only [ShowProjection.publishedPart, ShowProjection.updatablePart, Prod.mk.injEq,
    ShowProjection.untraced] at *
  simp [*]

/-- A row of a show is the same whatever order its facts are applied in, exactly when a publication
and an update stated at the newest instant state the same. -/
theorem showConverges_iff (hversions : DistinctShowVersions stated) :
    ShowConverges showId stated ↔ NewestAgree stated := by
  have hids : ∀ facts : List ShowFact, (facts.map fun f => (f, (none : Option String))).map Prod.fst =
      facts := by
    intro facts
    rw [List.map_map]
    exact List.map_id _
  constructor
  · intro h f hf g hg hmax hsame
    have hrows := h ((stated ++ [f]).map fun f => (f, none)) ((stated ++ [g]).map fun f => (f, none))
      (by rw [hids]; exact applies_concat hf) (by rw [hids]; exact applies_concat hg)
    have hupdatable := congrArg ShowProjection.updatable hrows
    simp only [ShowProjection.untraced] at hupdatable
    rw [updatable_of_last hmax, updatable_of_last (hsame ▸ hmax)] at hupdatable
    exact (Option.some.inj hupdatable).symm
  · intro hagree applied applied' h h'
    refine ShowProjection.untraced_eq_of_parts ?_ ?_ ?_ ?_
    · rw [showId_showRowOf, showId_showRowOf]
    · exact le_antisymm (version_showRowOf h h') (version_showRowOf h' h)
    · rw [publishedPart_showRowOf, publishedPart_showRowOf]
      refine publishedRegister.foldl_deliver_congr ?_ ?_
      · intro a ha b hb
        exact publication_versioned hversions a ((h.mem_filterMap _ a).mp ha) b
          ((h.mem_filterMap _ b).mp hb)
      · exact fun a => (h.mem_filterMap _ a).trans (h'.mem_filterMap _ a).symm
    · by_cases hne : stated = []
      · have hnil : ∀ {facts : List (ShowFact × Option String)},
            Applies stated (facts.map Prod.fst) → facts = [] := by
          intro facts hfacts
          rw [← List.map_eq_nil_iff (f := Prod.fst), List.eq_nil_iff_forall_not_mem]
          intro a ha
          rw [hfacts, hne] at ha
          cases ha
        rw [hnil h, hnil h']
      · obtain ⟨fact, hfact, hmax⟩ := exists_newest hne
        have hnewest := isLatest_update hagree hfact hmax
        rw [updatablePart_of_newest hnewest h, updatablePart_of_newest hnewest h']

end Shows

/-! ## The read model -/

/-- The rows a date's facts and its show's facts lead to do not depend on how they were applied, and
the date's document says what was stated last; exactly when no schedule fills in over a newest
transition to an unknown state, what the document takes from the newest move is the last stated,
and a publication and an update of the show stated at the newest instant state the same. -/
theorem read_model_converges_iff [TimingRules] {dateId showId : Uuid} {stated : List DateFact}
    {showStated : List ShowFact} (hdates : DistinctVersions stated)
    (hshows : DistinctShowVersions showStated) :
    (DateConverges dateId stated ∧ ShowConverges showId showStated) ↔
      (TransitionsKnown stated ∧
        Composes (fun fields => fields.startsAt) (fun move => some move.startsAt) stated ∧
        Composes (fun fields => fields.slug) (fun move => move.slug) stated ∧
        Composes (fun fields => fields.canonicalUrl) (fun move => move.canonicalUrl) stated) ∧
      NewestAgree showStated := by
  rw [dateConverges_iff hdates, showConverges_iff hshows]

section Sample

open Sample

def scheduleFields (startsAt : Instant) (slug : String) : ScheduledDateFields where
  showId := 2
  channelId := 3
  venueId := 4
  startsAt := startsAt
  venueTimezone := "Europe/Paris"
  venueCity := "Paris"
  venueCountry := "FR"
  runtimeMin := 95
  replayPolicy := some .included
  replayWindowHours := 72
  rightsScope := some .worldwide
  blackoutCountries := []
  canonicalUrl := "/date/" ++ slug
  showSlug := "nuit-blanche"
  slug := slug

/-- A date's schedule at a start, under a slug. -/
def scheduleAt (version : ℤ) (startsAt : Instant) (slug : String) : DateFact :=
  .scheduled version (scheduleFields startsAt slug)

def moveAt (version : ℤ) (startsAt : Instant) (slug : String) : DateFact :=
  .rescheduled version ⟨startsAt, some slug, some ("/date/" ++ slug)⟩

def movedFacts : List DateFact :=
  [scheduleAt 10 1000 "a", .stateChanged 1 (some .technical), moveAt 20 2000 "b"]

def showUpdated (version : ℤ) (genre : String) : ShowFact :=
  ⟨version, none, ⟨[genre], [], none, ⟨[], []⟩, ⟨"", ""⟩, ⟨"", ""⟩⟩⟩

theorem read_model_converges_iff_sample :
    DateConverges 1 movedFacts ∧ ShowConverges 2 [showUpdated 5 "comedy", showUpdated 6 "drama"] := by
  have hdates : DistinctVersions movedFacts := by
    constructor <;> unfold Versioned <;> decide
  have hshows : DistinctShowVersions [showUpdated 5 "comedy", showUpdated 6 "drama"] := by
    unfold DistinctShowVersions
    decide
  have hschedule : ∀ s, IsLatest (movedFacts.filterMap DateFact.schedule) s →
      s = (10, scheduleFields 1000 "a") := fun s hs => List.mem_singleton.mp hs.1
  have hmove : ∀ m, IsLatest (movedFacts.filterMap DateFact.move) m →
      m = (20, ⟨2000, some "b", some "/date/b"⟩) := fun m hm => List.mem_singleton.mp hm.1
  refine (read_model_converges_iff hdates hshows).mpr ⟨⟨?_, ?_, ?_, ?_⟩, ?_⟩
  · intro t ht hnone
    rw [List.mem_singleton.mp (show t ∈ [(1, some .technical)] from ht.1)] at hnone
    cases hnone
  · intro s hs m hm
    rw [hschedule s hs, hmove m hm]
    exact .inl (by decide)
  · intro s hs m hm
    rw [hschedule s hs, hmove m hm]
    exact .inl (by decide)
  · intro s hs m hm
    rw [hschedule s hs, hmove m hm]
    exact .inl (by decide)
  · unfold NewestAgree
    decide

/-- A transition to a state the indexer does not know, and a schedule. -/
def unknownFacts : List DateFact := [.stateChanged 2 none, scheduleAt 10 1000 "a"]

/-- A date moved, then its schedule stated again under another slug. -/
def restatedFacts : List DateFact :=
  [scheduleAt 10 1000 "a", moveAt 20 2000 "b", scheduleAt 30 2000 "c"]

/-- The state depends on the order, and the document of a date keeps the slug and the URL its move
stated before they changed. -/
theorem read_model_diverges :
    ¬ DateConverges 1 unknownFacts ∧ ¬ DateConverges 1 restatedFacts := by
  constructor
  · intro h
    have hrows := h.rows unknownFacts unknownFacts.reverse (fun _ => Iff.rfl) fun _ =>
      List.mem_reverse
    exact absurd hrows (by decide)
  · intro h
    have hdocument := h.document restatedFacts (scheduleFields 2000 "c") none 0 none
      (fun _ => Iff.rfl) (by decide)
    exact absurd hdocument.2.1 (by decide)

end Sample

end Arthome.Search
