import Arthome.Library.Latest

/-!
# Statements in the order they were made

A log of stamped statements, appended to as a value changes. While its stamps grow, the
statement made last is the latest, so that a register the log is delivered to, in any order
and more than once, ends on the value.
-/

namespace Arthome.Library

open Register

variable {τ α : Type}

/-- What was stated last, in the order of the statements. -/
def lastOf (statements : List (τ × α)) : Option α := statements.getLast?.map Prod.snd

/-- A part of the facts read from messages, read off a part of the messages. -/
theorem filterMap_parts {μ φ β : Type} {fact : μ → Option φ} {part : φ → Option α}
    {said : μ → Option β} {read : β → Option α}
    (h : ∀ message, (fact message).bind part = (said message).bind read) (messages : List μ) :
    (messages.filterMap fact).filterMap part = (messages.filterMap said).filterMap read := by
  rw [List.filterMap_filterMap, List.filterMap_filterMap]
  exact List.filterMap_congr fun message _ => h message

section Last

variable {statements : List (τ × α)} {stamp : τ} {a : α}

@[simp] theorem lastOf_nil : lastOf ([] : List (τ × α)) = none := rfl

@[simp] theorem lastOf_concat : lastOf (statements ++ [(stamp, a)]) = some a := by
  simp [lastOf]

theorem lastOf_map {β σ : Type} (f : τ → σ) (g : α → β) (statements : List (τ × α)) :
    lastOf (statements.map fun s => (f s.1, g s.2)) = (lastOf statements).map g := by
  rw [lastOf, lastOf, List.getLast?_map, Option.map_map, Option.map_map]
  rfl

/-- A reader that knows what was stated last ends on its reading of it. -/
theorem lastOf_read {β σ : Type} {f : τ → σ} {g : α → Option β}
    (hread : ∀ a, lastOf statements = some a → (g a).isSome = true) :
    lastOf (statements.filterMap fun s => (g s.2).map fun b => (f s.1, b)) =
      (lastOf statements).bind g := by
  rcases List.eq_nil_or_concat statements with rfl | ⟨front, ⟨stamp, a⟩, rfl⟩
  · rfl
  · rw [List.concat_eq_append] at hread ⊢
    obtain ⟨b, hb⟩ := Option.isSome_iff_exists.mp (hread a lastOf_concat)
    rw [List.filterMap_append, lastOf_concat, Option.bind_some, hb]
    simp only [List.filterMap_cons, hb, Option.map_some, List.filterMap_nil]
    exact lastOf_concat

/-- Under growing stamps, the last statement is the latest. -/
theorem isLatest_of_getLast [LinearOrder τ] (hgrowing : statements.Pairwise fun a b => a.1 < b.1)
    {last : τ × α} (h : statements.getLast? = some last) : IsLatest statements last := by
  refine ⟨List.mem_of_getLast? h, fun other hother => ?_⟩
  obtain ⟨front, rfl⟩ := List.getLast?_eq_some_iff.mp h
  rcases List.mem_append.mp hother with hfront | hsame
  · exact .inl ((List.pairwise_append.mp hgrowing).2.2 other hfront _ (by simp))
  · exact .inr (List.mem_singleton.mp hsame)

theorem isLatest_of_lastOf [LinearOrder τ] (hgrowing : statements.Pairwise fun a b => a.1 < b.1)
    (h : lastOf statements = some a) : ∃ stamp, IsLatest statements (stamp, a) := by
  obtain ⟨⟨stamp, last⟩, hlast, rfl⟩ := Option.map_eq_some_iff.mp h
  exact ⟨stamp, isLatest_of_getLast hgrowing hlast⟩

/-- A register that keeps nothing yet, delivered what a log states in any order and more than
once, ends on the statement made last. -/
theorem foldl_deliver_of_log {σ : Type} [LinearOrder τ] (r : Register σ τ α) {s : σ}
    {facts : List (τ × α)} (hfresh : r.stamp s = none)
    (hgrowing : statements.Pairwise fun a b => a.1 < b.1)
    (hsame : ∀ fact, fact ∈ facts ↔ fact ∈ statements) :
    facts.foldl r.deliver s =
      statements.getLast?.elim s fun last => r.write s last.1 last.2 := by
  cases hlast : statements.getLast? with
  | none =>
      rw [List.getLast?_eq_none_iff] at hlast
      have hnone : facts = [] := by
        rw [List.eq_nil_iff_forall_not_mem]
        intro fact hfact
        rw [hsame, hlast] at hfact
        cases hfact
      rw [hnone]
      rfl
  | some last =>
      obtain ⟨hmem, hlatest⟩ := isLatest_of_getLast hgrowing hlast
      have hfacts : IsLatest facts last :=
        ⟨(hsame last).mpr hmem, fun other hother => hlatest other ((hsame other).mp hother)⟩
      have hnewer : r.isOlder s last = false := by rw [isOlder, hfresh, Option.any_none]
      rw [r.foldl_deliver_of_isLatest hfacts, deliver, hnewer, Option.elim_some]
      rfl

end Last

/-- The log of a counted value: its stamps grow up to the count, and the value is its last
statement. -/
structure Tracks [LinearOrder τ] (statements : List (τ × α)) (count : τ) (value : Option α) :
    Prop where
  growing : statements.Pairwise fun a b => a.1 < b.1
  counted : ∀ s ∈ statements, s.1 ≤ count
  last : lastOf statements = value

namespace Tracks

variable [LinearOrder τ] {statements : List (τ × α)} {count count' : τ} {value : Option α} {a : α}

theorem nil (count : τ) : Tracks ([] : List (τ × α)) count none where
  growing := List.Pairwise.nil
  counted _ h := absurd h List.not_mem_nil
  last := rfl

/-- A count may move with nothing stated. -/
theorem unstated (h : Tracks statements count value) (hcount : count ≤ count') :
    Tracks statements count' value :=
  { h with counted := fun s hs => (h.counted s hs).trans hcount }

/-- A new value is stated under a new count. -/
theorem stated (h : Tracks statements count value) (hcount : count < count') :
    Tracks (statements ++ [(count', a)]) count' (some a) where
  growing := by
    rw [List.pairwise_append]
    refine ⟨h.growing, List.pairwise_singleton _ _, fun s hs t ht => ?_⟩
    rw [List.mem_singleton] at ht
    rw [ht]
    exact (h.counted s hs).trans_lt hcount
  counted := by
    intro s hs
    rcases List.mem_append.mp hs with hold | hnew
    · exact (h.counted s hold).trans hcount.le
    · rw [List.mem_singleton] at hnew
      rw [hnew]
  last := lastOf_concat

/-- A reader that keeps the order of the stamps, and knows the value, reads the value's log. -/
theorem read {β σ : Type} [LinearOrder σ] (h : Tracks statements count value) {f : τ → σ}
    (hf : StrictMono f) {g : α → Option β} (hread : ∀ a, value = some a → (g a).isSome = true) :
    Tracks (statements.filterMap fun s => (g s.2).map fun b => (f s.1, b)) (f count)
      (value.bind g) where
  growing := by
    refine h.growing.filterMap _ fun s t hlt u hu v hv => ?_
    obtain ⟨_, -, rfl⟩ := Option.map_eq_some_iff.mp hu
    obtain ⟨_, -, rfl⟩ := Option.map_eq_some_iff.mp hv
    exact hf hlt
  counted := by
    intro u hu
    obtain ⟨s, hs, hu⟩ := List.mem_filterMap.mp hu
    obtain ⟨_, -, rfl⟩ := Option.map_eq_some_iff.mp hu
    exact hf.monotone (h.counted s hs)
  last := by
    rw [lastOf_read fun a ha => hread a (h.last.symm.trans ha), h.last]

theorem isLatest (h : Tracks statements count (some a)) : ∃ stamp, IsLatest statements (stamp, a) :=
  isLatest_of_lastOf h.growing h.last

end Tracks

end Arthome.Library
