import Arthome.Core.SlugRules
import Mathlib

/-!
# Slugs

The slugs a date may take within its show and an artist among artists. What follows a
slug's last hyphen tells a date's candidates apart: the day, the time of day, or the tail
of the date's own id.
-/

namespace Arthome.Catalog

open Arthome.Core

variable [SlugRules]

def TITLE_SLUG_MAX : ℕ := 60

def isSlugChar (c : Char) : Bool := ('a' ≤ c && c ≤ 'z') || ('0' ≤ c && c ≤ '9')

/-- Ligatures the decomposition leaves whole. -/
def unligatured (c : Char) : List Char :=
  if c = 'œ' then ['o', 'e'] else if c = 'æ' then ['a', 'e'] else if c = 'ß' then ['s', 's']
  else [c]

/-- Each run of other characters, replaced by one hyphen. -/
def hyphenated : List Char → List Char
  | [] => []
  | c :: cs =>
    if isSlugChar c then c :: hyphenated cs
    else
      match hyphenated cs with
      | '-' :: rest => '-' :: rest
      | rest => '-' :: rest

def trimmedRight (cs : List Char) : List Char :=
  (cs.reverse.dropWhile fun c => c = '-').reverse

/-- Lowercase, hyphenated, no accent. -/
def slugify (text : String) : String :=
  let cs := hyphenated ((SlugRules.folded text).toList.flatMap unligatured)
  let trimmed := trimmedRight (cs.dropWhile fun c => c = '-')
  String.ofList (trimmedRight (trimmed.take TITLE_SLUG_MAX))

def pad (value : ℕ) : String :=
  if (toString value).length < 2 then "0" ++ toString value else toString value

/-- The last `n` hexadecimal digits of an id. -/
def uuidTail (n : ℕ) (id : Uuid) : String :=
  String.ofList ((List.range n).reverse.map fun i => Nat.digitChar (id / 16 ^ i % 16))

/-- The slugs a date may take within its show, most readable first; the last carries its own id. -/
def dateSlugCandidates (startsAt : Instant) (timeZone : String) (dateId : Uuid) : List String :=
  let wall := SlugRules.wallClockAt startsAt timeZone
  let day := toString wall.year ++ "-" ++ pad wall.month ++ "-" ++ pad wall.day
  [day, day ++ "-" ++ (pad wall.hour ++ pad wall.minute), day ++ "-" ++ uuidTail 8 dateId]

/-- What follows the last hyphen. -/
def lastSegment (slug : String) : List Char :=
  (slug.toList.reverse.takeWhile fun c => c ≠ '-').reverse

omit [SlugRules] in
theorem lastSegment_append {front back : String} (h : '-' ∉ back.toList) :
    lastSegment (front ++ "-" ++ back) = back.toList := by
  have hall : ∀ c ∈ back.toList.reverse, (decide (c ≠ '-')) = true := by
    intro c hc
    rw [List.mem_reverse] at hc
    exact decide_eq_true fun hdash => h (hdash ▸ hc)
  have hlist : (front ++ "-" ++ back).toList.reverse =
      back.toList.reverse ++ '-' :: front.toList.reverse := by simp
  unfold lastSegment
  rw [hlist, List.takeWhile_append_of_pos hall]
  simp

omit [SlugRules] in
theorem pad_toList (n : ℕ) (h : n < 100) : (pad n).toList.length = 2 ∧ '-' ∉ (pad n).toList := by
  have hall : ∀ m : Fin 100, (pad m).toList.length = 2 ∧ '-' ∉ (pad m).toList := by decide +kernel
  exact hall ⟨n, h⟩

omit [SlugRules] in
theorem uuidTail_toList (n : ℕ) (id : Uuid) :
    (uuidTail n id).toList.length = n ∧ '-' ∉ (uuidTail n id).toList := by
  have hdigit : ∀ d : Fin 16, Nat.digitChar d ≠ '-' := by decide
  refine ⟨by simp [uuidTail], ?_⟩
  intro hdash
  simp only [uuidTail, String.toList_ofList, List.mem_map] at hdash
  obtain ⟨i, -, hi⟩ := hdash
  exact hdigit ⟨id / 16 ^ i % 16, Nat.mod_lt _ (by omega)⟩ hi

/-- The slug is one the date may take, at some start. -/
def DateSlugOf (dateId : Uuid) (slug : String) : Prop :=
  (lastSegment slug).length ≠ 8 ∨ lastSegment slug = (uuidTail 8 dateId).toList

theorem dateSlugOf_candidate {startsAt : Instant} {timeZone : String} {dateId : Uuid}
    {slug : String} (h : slug ∈ dateSlugCandidates startsAt timeZone dateId) :
    DateSlugOf dateId slug := by
  simp only [dateSlugCandidates, List.mem_cons, List.not_mem_nil, or_false] at h
  obtain ⟨hday, hdayDash⟩ := pad_toList (SlugRules.wallClockAt startsAt timeZone).day (by omega)
  rcases h with rfl | rfl | rfl
  · left
    rw [lastSegment_append hdayDash]
    omega
  · left
    obtain ⟨hhour, hhourDash⟩ := pad_toList (SlugRules.wallClockAt startsAt timeZone).hour (by omega)
    obtain ⟨hminute, hminuteDash⟩ :=
      pad_toList (SlugRules.wallClockAt startsAt timeZone).minute (by omega)
    rw [lastSegment_append (by simp [hhourDash, hminuteDash])]
    simp only [String.toList_append, List.length_append]
    omega
  · exact .inr (lastSegment_append (uuidTail_toList 8 dateId).2)

/-- The last candidate ends in the date's own tail. -/
theorem lastSegment_lastCandidate (startsAt : Instant) (timeZone : String) (dateId : Uuid)
    (fallback : String) :
    lastSegment ((dateSlugCandidates startsAt timeZone dateId).getLastD fallback) =
      (uuidTail 8 dateId).toList :=
  lastSegment_append (uuidTail_toList 8 dateId).2

omit [SlugRules] in
/-- Dates with other tails never take the slug that ends in this one's. -/
theorem not_dateSlugOf {dateId other : Uuid} {slug : String}
    (htails : uuidTail 8 other ≠ uuidTail 8 dateId)
    (hslug : lastSegment slug = (uuidTail 8 dateId).toList) : ¬ DateSlugOf other slug := by
  rintro (hlength | hsame)
  · rw [hslug] at hlength
    exact hlength (uuidTail_toList 8 dateId).1
  · rw [hslug] at hsame
    exact htails (String.toList_inj.mp hsame).symm

end Arthome.Catalog
