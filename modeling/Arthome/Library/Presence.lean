import Mathlib

/-!
# A presence kept by conditional reports

Something is present by lives, each from an onset to a loss. A register keeps the
onset of the life it believes on and the last loss it recorded; an onset is taken
unless the recorded loss is after it, a loss only when it names the onset shown.
Told every life in the order it happened, the register shows the life still on
and the last loss. Told in any order, it ends there exactly when the last loss
finds its own onset shown, and the onset still on is told after it.
-/

namespace Arthome.Library

variable {τ : Type} [LinearOrder τ]

structure Presence (τ : Type) where
  onlineSince : Option τ
  lostAt : Option τ
  deriving Repr, DecidableEq

structure Life (τ : Type) where
  onset : τ
  loss : τ
  deriving Repr, DecidableEq

inductive Report (τ : Type) where
  | online (onset : τ)
  | offline (onset loss : τ)
  deriving Repr, DecidableEq

namespace Presence

/-- Nothing told yet. -/
def unseen : Presence τ := ⟨none, none⟩

/-- An onset told: nothing when it is the one shown, or older than the recorded loss. -/
def online (p : Presence τ) (onset : τ) : Presence τ :=
  if p.onlineSince = some onset then p
  else if ∀ lostAt ∈ p.lostAt, lostAt ≤ onset then { p with onlineSince := some onset }
  else p

/-- A loss told: nothing when another onset is shown, or none. -/
def offline (p : Presence τ) (onset loss : τ) : Presence τ :=
  if p.onlineSince = some onset then ⟨none, some loss⟩ else p

def told (p : Presence τ) : Report τ → Presence τ
  | .online onset => p.online onset
  | .offline onset loss => p.offline onset loss

def toldAll (p : Presence τ) (reports : List (Report τ)) : Presence τ := reports.foldl told p

@[simp] theorem toldAll_nil (p : Presence τ) : p.toldAll [] = p := rfl

@[simp] theorem toldAll_cons (p : Presence τ) (report : Report τ) (reports : List (Report τ)) :
    p.toldAll (report :: reports) = (p.told report).toldAll reports := rfl

@[simp] theorem toldAll_append (p : Presence τ) (before later : List (Report τ)) :
    p.toldAll (before ++ later) = (p.toldAll before).toldAll later := List.foldl_append

theorem online_of_lost {p : Presence τ} {onset : τ} (h : ∀ lostAt ∈ p.lostAt, lostAt ≤ onset) :
    p.online onset = { p with onlineSince := some onset } := by
  unfold online
  split_ifs with hshown
  · rw [← hshown]
  · rfl

theorem online_of_older {p : Presence τ} {onset lostAt : τ} (hlost : p.lostAt = some lostAt)
    (hafter : onset < lostAt) : p.online onset = p := by
  unfold online
  split_ifs with hshown haccepts
  · rfl
  · exact absurd (haccepts lostAt hlost) (not_le.mpr hafter)
  · rfl

theorem offline_shown {p : Presence τ} {onset loss : τ} (h : p.onlineSince = some onset) :
    p.offline onset loss = ⟨none, some loss⟩ := if_pos h

theorem offline_other {p : Presence τ} {onset loss : τ} (h : p.onlineSince ≠ some onset) :
    p.offline onset loss = p := if_neg h

/-- An onset told moves no loss. -/
@[simp] theorem online_lostAt (p : Presence τ) (onset : τ) : (p.online onset).lostAt = p.lostAt := by
  unfold online
  split_ifs <;> rfl

/-- What is shown was shown before, or is the onset told. -/
theorem online_onlineSince {p : Presence τ} {onset shown : τ}
    (h : (p.online onset).onlineSince = some shown) : p.onlineSince = some shown ∨ shown = onset := by
  unfold online at h
  split_ifs at h
  · exact .inl h
  · exact .inr (Option.some.inj h).symm
  · exact .inl h

/-- An onset shown at the end was shown at the start, or told since. -/
theorem told_of_shown {p : Presence τ} {reports : List (Report τ)} {shown : τ}
    (h : (p.toldAll reports).onlineSince = some shown) :
    p.onlineSince = some shown ∨ .online shown ∈ reports := by
  induction reports generalizing p with
  | nil => exact .inl h
  | cons report reports ih =>
      rcases ih h with hshown | hlater
      · cases report with
        | online onset =>
            rcases online_onlineSince hshown with hbefore | rfl
            · exact .inl hbefore
            · exact .inr List.mem_cons_self
        | offline onset loss =>
            simp only [told, offline] at hshown
            split_ifs at hshown
            exact .inl hshown
      · exact .inr (List.mem_cons_of_mem _ hlater)

/-- A loss recorded at the end was recorded at the start, or told while its onset was shown. -/
theorem told_of_lost {p : Presence τ} {reports : List (Report τ)} {lostAt : τ}
    (h : (p.toldAll reports).lostAt = some lostAt) :
    p.lostAt = some lostAt ∨ ∃ before after onset, reports = before ++ .offline onset lostAt :: after ∧
      (p.toldAll before).onlineSince = some onset := by
  induction reports generalizing p with
  | nil => exact .inl h
  | cons report reports ih =>
      rcases ih h with hlost | ⟨before, after, onset, rfl, hshown⟩
      · cases report with
        | online onset =>
            rw [told, online_lostAt] at hlost
            exact .inl hlost
        | offline onset loss =>
            simp only [told, offline] at hlost
            split_ifs at hlost with hshown
            · obtain rfl := Option.some.inj hlost
              exact .inr ⟨[], reports, onset, rfl, hshown⟩
            · exact .inl hlost
      · exact .inr ⟨report :: before, after, onset, rfl, hshown⟩

end Presence

/-! ## Lives one after the other -/

/-- Lives that do not overlap, in their order, and the onset of the one still on. -/
structure Lived (lives : List (Life τ)) (still : Option τ) : Prop where
  ends : ∀ life ∈ lives, life.onset < life.loss
  apart : lives.Pairwise fun life later => life.loss ≤ later.onset
  still_after : ∀ onset ∈ still, ∀ life ∈ lives, life.loss ≤ onset

/-- Every life's two reports, in the order they happened. -/
def reportsOf (lives : List (Life τ)) (still : Option τ) : List (Report τ) :=
  lives.flatMap (fun life => [.online life.onset, .offline life.onset life.loss]) ++
    still.toList.map .online

section Lives

variable {lives : List (Life τ)} {still : Option τ}

omit [LinearOrder τ] in
theorem online_mem_reportsOf {onset : τ} (h : .online onset ∈ reportsOf lives still) :
    (∃ life ∈ lives, life.onset = onset) ∨ still = some onset := by
  simp only [reportsOf, List.mem_append, List.mem_flatMap, List.mem_cons, Report.online.injEq,
    reduceCtorEq, List.not_mem_nil, or_false, List.mem_map, Option.mem_toList] at h
  obtain ⟨life, hlife, rfl⟩ | ⟨_, hstill, rfl⟩ := h
  · exact .inl ⟨life, hlife, rfl⟩
  · exact .inr hstill

omit [LinearOrder τ] in
theorem offline_mem_reportsOf {onset loss : τ} (h : .offline onset loss ∈ reportsOf lives still) :
    ⟨onset, loss⟩ ∈ lives := by
  simp only [reportsOf, List.mem_append, List.mem_flatMap, List.mem_cons, Report.offline.injEq,
    reduceCtorEq, List.not_mem_nil, or_false, false_or, List.mem_map, and_false, exists_false] at h
  obtain ⟨life, hlife, rfl, rfl⟩ := h
  exact hlife

omit [LinearOrder τ] in
theorem mem_reportsOf_still {onset : τ} (h : still = some onset) :
    .online onset ∈ reportsOf lives still := by
  simp [reportsOf, h]

theorem Lived.of_concat {life : Life τ} (h : Lived (lives ++ [life]) still) : Lived lives none where
  ends other hother := h.ends other (by simp [hother])
  apart := (List.pairwise_append.mp h.apart).1
  still_after := by simp

/-- The last loss, once every life but the one still on is over. -/
def lastLoss (lives : List (Life τ)) : Option τ := lives.getLast?.map fun life => life.loss

theorem Lived.lastLoss_le (h : Lived lives still) {onset : τ} (hstill : still = some onset) :
    ∀ lostAt ∈ lastLoss lives, lostAt ≤ onset := by
  intro lostAt hlostAt
  obtain ⟨last, hlast, rfl⟩ := Option.map_eq_some_iff.mp hlostAt
  exact h.still_after onset hstill last (List.mem_of_getLast? hlast)

/-- Told in the order things happened, the register shows what is on, and the last loss. -/
theorem toldAll_reportsOf (h : Lived lives still) :
    Presence.unseen.toldAll (reportsOf lives still) =
      ⟨still, lastLoss lives⟩ := by
  have hended : ∀ lives : List (Life τ), Lived lives none →
      Presence.unseen.toldAll (reportsOf lives none) =
        ⟨none, lastLoss lives⟩ := by
    intro lives hlives
    induction lives using List.reverseRecOn with
    | nil => rfl
    | append_singleton lives life ih =>
        have hbefore := ih hlives.of_concat
        have hlost : ∀ lostAt ∈ lastLoss lives, lostAt ≤ life.onset := by
          intro lostAt hlostAt
          obtain ⟨last, hlast, rfl⟩ := Option.map_eq_some_iff.mp hlostAt
          exact (List.pairwise_append.mp hlives.apart).2.2 last (List.mem_of_getLast? hlast) life
            (by simp)
        simp only [reportsOf, Option.toList_none, List.map_nil, List.append_nil] at hbefore ⊢
        rw [List.flatMap_append, Presence.toldAll_append, hbefore]
        simp only [List.flatMap_cons, List.flatMap_nil, List.append_nil, Presence.toldAll_cons,
          Presence.toldAll_nil, Presence.told]
        rw [Presence.online_of_lost hlost, Presence.offline_shown rfl]
        simp [lastLoss]
  cases still with
  | none => exact hended lives h
  | some onset =>
      have hlives := hended lives ⟨h.ends, h.apart, by simp⟩
      simp only [reportsOf, Option.toList_none, List.map_nil, List.append_nil] at hlives
      rw [reportsOf, Presence.toldAll_append, hlives]
      simp only [Option.toList_some, List.map_cons, List.map_nil, Presence.toldAll_cons,
        Presence.toldAll_nil, Presence.told]
      exact Presence.online_of_lost (h.lastLoss_le rfl)

theorem Lived.loss_le_last (h : Lived lives still) {last life : Life τ}
    (hlast : lives.getLast? = some last) (hlife : life ∈ lives) : life.loss ≤ last.loss := by
  obtain ⟨before, rfl⟩ := List.getLast?_eq_some_iff.mp hlast
  rw [List.mem_append, List.mem_singleton] at hlife
  rcases hlife with hbefore | rfl
  · have hapart := (List.pairwise_append.mp h.apart).2.2 life hbefore last (by simp)
    exact le_trans hapart (le_of_lt (h.ends last (by simp)))
  · exact le_rfl

/-- Once the last loss is recorded, only the onset still on moves the register. -/
theorem toldAll_of_lastLoss (h : Lived lives still) {reports : List (Report τ)}
    (hreports : ∀ report ∈ reports, report ∈ reportsOf lives still) {shown : Option τ}
    (hshown : shown = still ∨
      shown = none ∧ ∃ onset, still = some onset ∧ .online onset ∈ reports) :
    Presence.toldAll ⟨shown, lastLoss lives⟩ reports = ⟨still, lastLoss lives⟩ := by
  induction reports generalizing shown with
  | nil =>
      rcases hshown with rfl | ⟨-, onset, -, htold⟩
      · rfl
      · cases htold
  | cons report reports ih =>
      have hlater : ∀ report ∈ reports, report ∈ reportsOf lives still :=
        fun report hreport => hreports report (List.mem_cons_of_mem _ hreport)
      rw [Presence.toldAll_cons]
      cases report with
      | online onset =>
          rcases online_mem_reportsOf (hreports _ List.mem_cons_self) with
            ⟨life, hlife, rfl⟩ | hstill
          · -- The onset of a life already over: older than the recorded loss.
            obtain ⟨last, hlast⟩ : ∃ last, lives.getLast? = some last :=
              ⟨_, List.getLast?_eq_some_getLast (List.ne_nil_of_mem hlife)⟩
            have hover : life.onset < last.loss :=
              lt_of_lt_of_le (h.ends life hlife) (h.loss_le_last hlast hlife)
            have hlost : lastLoss lives = some last.loss := by rw [lastLoss, hlast, Option.map_some]
            rw [Presence.told, Presence.online_of_older hlost hover]
            refine ih hlater (hshown.imp_right ?_)
            rintro ⟨hnone, onset, hstill, htold⟩
            refine ⟨hnone, onset, hstill, (List.mem_cons.mp htold).resolve_left ?_⟩
            intro hsame
            rw [Report.online.inj hsame] at hstill
            exact absurd (h.still_after _ hstill life hlife) (not_le.mpr (h.ends life hlife))
          · rw [Presence.told, Presence.online_of_lost (h.lastLoss_le hstill)]
            exact ih hlater (.inl hstill.symm)
      | offline onset loss =>
          have hlife := offline_mem_reportsOf (hreports _ List.mem_cons_self)
          have hother : shown ≠ some onset := by
            rintro rfl
            rcases hshown with hstill | ⟨hnone, -⟩
            · exact absurd (h.still_after onset hstill.symm _ hlife)
                (not_le.mpr (h.ends _ hlife))
            · cases hnone
          rw [Presence.told, Presence.offline_other hother]
          refine ih hlater (hshown.imp_right ?_)
          rintro ⟨hnone, onset, hstill, htold⟩
          exact ⟨hnone, onset, hstill, (List.mem_cons.mp htold).resolve_left (by simp)⟩

theorem Lived.eq_last (h : Lived lives still) {last life : Life τ}
    (hlast : lives.getLast? = some last) (hlife : life ∈ lives) (hloss : life.loss = last.loss) :
    life = last := by
  obtain ⟨before, rfl⟩ := List.getLast?_eq_some_iff.mp hlast
  rw [List.mem_append, List.mem_singleton] at hlife
  rcases hlife with hbefore | rfl
  · have hapart := (List.pairwise_append.mp h.apart).2.2 life hbefore last (by simp)
    rw [hloss] at hapart
    exact absurd hapart (not_le.mpr (h.ends last (by simp)))
  · rfl

/-- The last loss finds its own onset shown, and the onset still on is told after it. -/
def LastLossLands (lives : List (Life τ)) (still : Option τ) (reports : List (Report τ)) : Prop :=
  ∀ last ∈ lives.getLast?, ∃ before after,
    reports = before ++ .offline last.onset last.loss :: after ∧
      (Presence.unseen.toldAll before).onlineSince = some last.onset ∧
      ∀ onset ∈ still, .online onset ∈ after

/-- Told each report at least once, in any order, the register ends as in their order exactly when
the last loss lands. -/
theorem toldAll_eq_inOrder_iff (h : Lived lives still) {reports : List (Report τ)}
    (hreports : ∀ report, report ∈ reports ↔ report ∈ reportsOf lives still) :
    Presence.unseen.toldAll reports = Presence.unseen.toldAll (reportsOf lives still) ↔
      LastLossLands lives still reports := by
  rw [toldAll_reportsOf h]
  constructor
  · intro hfinal last hlast
    have hlost : (Presence.unseen.toldAll reports).lostAt = some last.loss := by
      rw [hfinal, lastLoss, Option.mem_def.mp hlast, Option.map_some]
    rcases Presence.told_of_lost hlost with hnone | ⟨before, after, onset, rfl, hshown⟩
    · cases hnone
    have hlife := offline_mem_reportsOf ((hreports _).mp (List.mem_append_right _ List.mem_cons_self))
    have hsame := h.eq_last hlast hlife rfl
    rw [← hsame]
    refine ⟨before, after, rfl, hshown, ?_⟩
    intro stillOn hstill
    rw [Presence.toldAll_append, Presence.toldAll_cons, Presence.told,
      Presence.offline_shown hshown] at hfinal
    have hon : (Presence.toldAll ⟨none, some last.loss⟩ after).onlineSince = some stillOn := by
      rw [hfinal, ← Option.mem_def.mp hstill]
    exact (Presence.told_of_shown hon).resolve_left (by simp)
  · intro hlands
    cases hlast : lives.getLast? with
    | none =>
        have hnone : lastLoss lives = none := by rw [lastLoss, hlast, Option.map_none]
        have hunseen : (Presence.unseen : Presence τ) = ⟨none, lastLoss lives⟩ := by
          rw [hnone, Presence.unseen]
        rw [hunseen]
        refine toldAll_of_lastLoss h (fun report => (hreports report).mp) ?_
        cases hstill : still with
        | none => exact .inl rfl
        | some onset => exact .inr ⟨rfl, onset, rfl, (hreports _).mpr (mem_reportsOf_still hstill)⟩
    | some last =>
        obtain ⟨before, after, rfl, hshown, hstill⟩ := hlands last hlast
        have hlost : lastLoss lives = some last.loss := by rw [lastLoss, hlast, Option.map_some]
        rw [Presence.toldAll_append, Presence.toldAll_cons, Presence.told,
          Presence.offline_shown hshown, ← hlost]
        refine toldAll_of_lastLoss h ?_ ?_
        · intro report hreport
          exact (hreports report).mp (List.mem_append_right _ (List.mem_cons_of_mem _ hreport))
        · cases still with
          | none => exact .inl rfl
          | some onset => exact .inr ⟨rfl, onset, rfl, hstill onset rfl⟩

end Lives

end Arthome.Library
