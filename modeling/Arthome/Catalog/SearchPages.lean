import Arthome.Catalog.SearchCursors

/-!
# The pages of a search

One result more than the page is asked of the index, so that whether there is more is known
without a count, and never past the window the index can page. The next cursor is issued at the
end of the page, the previous one a page before it.
-/

namespace Arthome.Catalog

open Library

inductive EmptyReason where
  | noMatchForQuery
  | noMatchWithFilters
  deriving Repr, DecidableEq

/-- What paging reads of a query: whether it filters, the page's cursor and its limit. -/
structure SearchQuery where
  filtered : Bool
  cursor : Option String
  limit : ℕ
  deriving Repr, DecidableEq

/-- The slice asked of the index. -/
structure SearchBody where
  first : ℤ
  size : ℤ
  deriving Repr, DecidableEq

def searchBodyOf (query : SearchQuery) (offset : ℤ) : SearchBody :=
  ⟨offset, min (query.limit + 1) (maxResultWindow - offset)⟩

/-- What the index answers: the hits, and the number of shows when it counted them. -/
structure SearchResponse (Hit : Type) where
  hits : List Hit
  shows : Option ℕ

structure SearchPage (Hit : Type) where
  /-- The hits its groups are made of. -/
  groups : List Hit
  hasMore : Bool
  nextCursor : Option String
  prevCursor : Option String
  approximateTotal : ℕ
  totalIsLowerBound : Bool
  emptyReason : Option EmptyReason

variable {Hit : Type}

/-- Two pages alike in all but the instant their cursors were issued at. -/
structure SearchPage.Alike (page again : SearchPage Hit) : Prop where
  groups : again.groups = page.groups
  hasMore : again.hasMore = page.hasMore
  nextCursor : again.nextCursor.isSome = page.nextCursor.isSome
  prevCursor : again.prevCursor.isSome = page.prevCursor.isSome
  approximateTotal : again.approximateTotal = page.approximateTotal
  totalIsLowerBound : again.totalIsLowerBound = page.totalIsLowerBound
  emptyReason : again.emptyReason = page.emptyReason

/-- The page of a response, totals exact up to a limit. -/
def searchPageOf (searchExactTotalLimit : ℕ) (body : SearchResponse Hit) (query : SearchQuery)
    (offset nowMs : ℤ) : SearchPage Hit :=
  let groups := body.hits.take query.limit
  let shown := body.shows.getD 0
  let hasMore := decide (query.limit < body.hits.length)
  { groups := groups
    hasMore := hasMore
    nextCursor := if hasMore then some (cursorAt (offset + query.limit) nowMs) else none
    prevCursor := if 0 < offset then some (cursorAt (max 0 (offset - query.limit)) nowMs) else none
    approximateTotal := min shown searchExactTotalLimit
    totalIsLowerBound := decide (searchExactTotalLimit ≤ shown)
    emptyReason :=
      if groups.isEmpty && decide (offset = 0) then
        some (if query.filtered then .noMatchWithFilters else .noMatchForQuery)
      else none }

/-- An index whose results do not change: the slice asked for, under the count it gives. -/
structure SearchIndex (Hit : Type) where
  results : List Hit
  shows : Option ℕ

def SearchIndex.search (index : SearchIndex Hit) (body : SearchBody) : SearchResponse Hit :=
  ⟨(index.results.drop body.first.toNat).take body.size.toNat, index.shows⟩

/-- One search, its offset read first. -/
def SearchIndex.execute (index : SearchIndex Hit) (searchExactTotalLimit : ℕ)
    (query : SearchQuery) (now : TimeValue) : Except CursorRefusal (SearchPage Hit) := do
  let offset ← offsetOf query.cursor now.ms
  return searchPageOf searchExactTotalLimit (index.search (searchBodyOf query offset)) query offset
    now.ms

/-- The pages from a cursor on, each asked under its limit and at its instant with the next cursor
of the page before, as far as the fuel goes. -/
def SearchIndex.follow (index : SearchIndex Hit) (searchExactTotalLimit : ℕ) (filtered : Bool)
    (limits : ℕ → ℕ) (instants : ℕ → TimeValue) :
    ℕ → ℕ → Option String → Except CursorRefusal (List (SearchPage Hit))
  | 0, _, _ => .ok []
  | fuel + 1, asked, cursor => do
    let page ← index.execute searchExactTotalLimit ⟨filtered, cursor, limits asked⟩ (instants asked)
    match page.nextCursor with
    | none => return [page]
    | some next => do
      let pages ← index.follow searchExactTotalLimit filtered limits instants fuel (asked + 1)
        (some next)
      return page :: pages

section Pages

variable {index : SearchIndex Hit} {searchExactTotalLimit : ℕ} {query : SearchQuery}
  {offset nowMs : ℤ} {page : SearchPage Hit} {now later : TimeValue}

/-- What is asked is not empty and ends in the window. -/
theorem searchBodyOf_within (hlimit : 1 ≤ query.limit) (hnonneg : 0 ≤ offset)
    (hunder : offset < maxResultWindow) :
    0 ≤ (searchBodyOf query offset).first ∧ 1 ≤ (searchBodyOf query offset).size ∧
      (searchBodyOf query offset).first + (searchBodyOf query offset).size ≤ maxResultWindow := by
  unfold searchBodyOf
  dsimp only
  omega

/-- The window's results from an offset on. -/
def SearchIndex.windowFrom (index : SearchIndex Hit) (offset : ℤ) : List Hit :=
  (index.results.take maxResultWindow.toNat).drop offset.toNat

theorem hits_search (hnonneg : 0 ≤ offset) (hunder : offset < maxResultWindow) :
    (index.search (searchBodyOf query offset)).hits =
      (index.windowFrom offset).take (query.limit + 1) := by
  unfold SearchIndex.search SearchIndex.windowFrom searchBodyOf
  dsimp only
  rw [List.drop_take, List.take_take]
  congr 1
  omega

/-- A page shows the window's results from its offset on, as many as its limit; there is more exactly
when the window has more. -/
theorem searchPageOf_window (index : SearchIndex Hit) (searchExactTotalLimit : ℕ)
    (query : SearchQuery) (nowMs : ℤ) (hnonneg : 0 ≤ offset) (hunder : offset < maxResultWindow) :
    let page := searchPageOf searchExactTotalLimit (index.search (searchBodyOf query offset)) query
      offset nowMs
    page.groups = (index.windowFrom offset).take query.limit ∧
      (page.hasMore = true ↔ query.limit < (index.windowFrom offset).length) := by
  have hhits : (index.search (searchBodyOf query offset)).hits =
      (index.windowFrom offset).take (query.limit + 1) := hits_search hnonneg hunder
  unfold searchPageOf
  dsimp only
  rw [hhits, List.take_take, List.length_take, decide_eq_true_eq]
  constructor
  · congr 1
    omega
  · omega

theorem length_windowFrom (hnonneg : 0 ≤ offset) :
    ((index.windowFrom offset).length : ℤ) ≤ max 0 (maxResultWindow - offset) := by
  unfold SearchIndex.windowFrom
  rw [List.length_drop, List.length_take]
  omega

/-- The offset a page was asked at. -/
theorem execute_ok (h : index.execute searchExactTotalLimit query now = .ok page) :
    ∃ offset, offsetOf query.cursor now.ms = .ok offset ∧ 0 ≤ offset ∧ offset < maxResultWindow ∧
      page = searchPageOf searchExactTotalLimit (index.search (searchBodyOf query offset)) query
        offset now.ms := by
  unfold SearchIndex.execute at h
  cases hoffset : offsetOf query.cursor now.ms with
  | error refusal =>
      rw [hoffset] at h
      cases h
  | ok offset =>
      rw [hoffset] at h
      cases h
      obtain ⟨hnonneg, hunder⟩ := offsetOf_under hoffset
      exact ⟨offset, rfl, hnonneg, hunder, rfl⟩

theorem windowFrom_append (hnonneg : 0 ≤ offset) (limit : ℕ) :
    (index.windowFrom offset).take limit ++ index.windowFrom (offset + limit) =
      index.windowFrom offset := by
  have hdrop : index.windowFrom (offset + limit) = (index.windowFrom offset).drop limit := by
    unfold SearchIndex.windowFrom
    rw [List.drop_drop]
    congr 1
    omega
  rw [hdrop, List.take_append_drop]

/-- A page with more to come leaves room in the window for the next one's first result. -/
theorem offset_add_limit_under (hnonneg : 0 ≤ offset) {limit : ℕ}
    (hmore : limit < (index.windowFrom offset).length) : offset + limit < maxResultWindow := by
  have hlength : ((index.windowFrom offset).length : ℤ) ≤ max 0 (maxResultWindow - offset) :=
    length_windowFrom hnonneg
  omega

/-- The next cursor of a page is accepted for a day, as where the page ends. -/
theorem offsetOf_nextCursor (hnonneg : 0 ≤ offset) (hunder : offset < maxResultWindow)
    (hlife : later.ms - now.ms ≤ cursorLifetimeMs) {cursor : String}
    (hnext : (searchPageOf searchExactTotalLimit (index.search (searchBodyOf query offset)) query
      offset now.ms).nextCursor = some cursor) :
    offsetOf (some cursor) later.ms = .ok (offset + query.limit) := by
  have hwindow :=
    (searchPageOf_window index searchExactTotalLimit query now.ms hnonneg hunder).2
  have hmore : (searchPageOf searchExactTotalLimit (index.search (searchBodyOf query offset)) query
      offset now.ms).hasMore = true := by
    by_contra hnone
    rw [Bool.not_eq_true] at hnone
    simp only [searchPageOf] at hnext hnone
    rw [hnone] at hnext
    cases hnext
  have hfits := offset_add_limit_under hnonneg (hwindow.mp hmore)
  simp only [searchPageOf] at hnext hmore
  rw [if_pos hmore, Option.some.injEq] at hnext
  rw [← hnext]
  exact offsetOf_cursorAt (by omega) hfits now hlife

/-- The previous cursor of a page is accepted for a day, as a page before it. -/
theorem offsetOf_prevCursor (hunder : offset < maxResultWindow)
    (hlife : later.ms - now.ms ≤ cursorLifetimeMs) {cursor : String}
    (hprev : (searchPageOf searchExactTotalLimit (index.search (searchBodyOf query offset)) query
      offset now.ms).prevCursor = some cursor) :
    offsetOf (some cursor) later.ms = .ok (max 0 (offset - query.limit)) := by
  simp only [searchPageOf] at hprev
  split_ifs at hprev with hpos
  cases hprev
  exact offsetOf_cursorAt (le_max_left _ _) (by omega) now hlife

theorem execute_of_offset (hoffset : offsetOf query.cursor now.ms = .ok offset) :
    index.execute searchExactTotalLimit query now = .ok (searchPageOf searchExactTotalLimit
      (index.search (searchBodyOf query offset)) query offset now.ms) := by
  unfold SearchIndex.execute
  rw [hoffset]
  rfl

/-- A response makes the same page at every instant. -/
theorem searchPageOf_alike (body : SearchResponse Hit) (query again : SearchQuery)
    (hfiltered : again.filtered = query.filtered) (hlimit : again.limit = query.limit)
    (offset nowMs laterMs : ℤ) :
    SearchPage.Alike (searchPageOf searchExactTotalLimit body query offset nowMs)
      (searchPageOf searchExactTotalLimit body again offset laterMs) := by
  unfold searchPageOf
  rw [hfiltered, hlimit]
  constructor <;> dsimp only <;> split_ifs <;> rfl

/-- The page after a page, then the one before that under the same limit, is the page again. -/
theorem execute_back (hnonneg : 0 ≤ offset) (hunder : offset < maxResultWindow)
    {between back : TimeValue} (hbetween : between.ms - now.ms ≤ cursorLifetimeMs)
    (hback : back.ms - between.ms ≤ cursorLifetimeMs) (hlimit : 1 ≤ query.limit) {next : String}
    (hnext : (searchPageOf searchExactTotalLimit (index.search (searchBodyOf query offset)) query
      offset now.ms).nextCursor = some next) :
    ∃ after prev again,
      index.execute searchExactTotalLimit { query with cursor := some next } between = .ok after ∧
      after.prevCursor = some prev ∧
      index.execute searchExactTotalLimit { query with cursor := some prev } back = .ok again ∧
      SearchPage.Alike (searchPageOf searchExactTotalLimit
        (index.search (searchBodyOf query offset)) query offset now.ms) again := by
  have hasked : offsetOf (some next) between.ms = .ok (offset + query.limit) :=
    offsetOf_nextCursor hnonneg hunder hbetween hnext
  have hprev : (if 0 < offset + query.limit then
      some (cursorAt (max 0 (offset + query.limit - query.limit)) between.ms) else none) =
      some (cursorAt offset between.ms) := by
    rw [if_pos (by omega), show max 0 (offset + query.limit - query.limit) = offset by omega]
  have hreturned : offsetOf (some (cursorAt offset between.ms)) back.ms = .ok offset :=
    offsetOf_cursorAt hnonneg hunder between hback
  exact ⟨_, _, _, execute_of_offset hasked, hprev, execute_of_offset hreturned,
    searchPageOf_alike _ query _ rfl rfl offset now.ms back.ms⟩

section Follow

variable {limits : ℕ → ℕ} {instants : ℕ → TimeValue}

/-- The pages from a cursor on show the window's results from its offset on, all but the last of them
having more. The induction is on the room left in the window. -/
theorem follow_window (index : SearchIndex Hit) (searchExactTotalLimit : ℕ) (filtered : Bool)
    (hlimits : ∀ k, 1 ≤ limits k)
    (hinstants : ∀ k, (instants (k + 1)).ms - (instants k).ms ≤ cursorLifetimeMs) (room asked : ℕ)
    {cursor : Option String} (hnonneg : 0 ≤ offset) (hunder : offset < maxResultWindow)
    (hroom : maxResultWindow - offset ≤ room)
    (hoffset : offsetOf cursor (instants asked).ms = .ok offset) :
    ∃ pages last, (∀ fuel, room ≤ fuel →
        index.follow searchExactTotalLimit filtered limits instants fuel asked cursor =
          .ok (pages ++ [last])) ∧
      (pages ++ [last]).flatMap SearchPage.groups = index.windowFrom offset ∧
      (∀ page ∈ pages, page.hasMore = true) ∧ last.hasMore = false := by
  induction room generalizing asked cursor offset with
  | zero => omega
  | succ room ih =>
      let query : SearchQuery := ⟨filtered, cursor, limits asked⟩
      let page := searchPageOf searchExactTotalLimit (index.search (searchBodyOf query offset)) query
        offset (instants asked).ms
      have hexecute : index.execute searchExactTotalLimit query (instants asked) = .ok page :=
        execute_of_offset hoffset
      obtain ⟨hgroups, hmore⟩ := searchPageOf_window index searchExactTotalLimit query
        (instants asked).ms hnonneg hunder
      have hlimit : 1 ≤ limits asked := hlimits asked
      cases hhas : page.hasMore with
      | false =>
          have hnone : page.nextCursor = none := by
            show (if page.hasMore then _ else none) = none
            rw [hhas]
            rfl
          refine ⟨[], page, ?_, ?_, by simp, hhas⟩
          · intro fuel hfuel
            obtain ⟨fuel, rfl⟩ : ∃ k, fuel = k + 1 := ⟨fuel - 1, by omega⟩
            rw [SearchIndex.follow, hexecute]
            show (match page.nextCursor with
              | none => _
              | some next => _) = _
            rw [hnone]
            rfl
          · have hall : ¬ limits asked < (index.windowFrom offset).length := by
              rw [← hmore]
              exact Bool.eq_false_iff.mp hhas
            rw [List.nil_append, List.flatMap_singleton]
            rw [show page.groups = (index.windowFrom offset).take (limits asked) from hgroups]
            exact List.take_of_length_le (not_lt.mp hall)
      | true =>
          have hnext : page.nextCursor =
              some (cursorAt (offset + limits asked) (instants asked).ms) := by
            show (if page.hasMore then _ else none) = _
            rw [hhas]
            rfl
          have hfits : offset + limits asked < maxResultWindow :=
            offset_add_limit_under hnonneg (hmore.mp hhas)
          have haccepted : offsetOf (some (cursorAt (offset + limits asked) (instants asked).ms))
              (instants (asked + 1)).ms = .ok (offset + limits asked) :=
            offsetOf_nextCursor hnonneg hunder (hinstants asked) hnext
          obtain ⟨pages, last, hfollow, hflat, hmores, hlast⟩ :=
            ih (asked + 1) (by omega) hfits (by omega) haccepted
          refine ⟨page :: pages, last, ?_, ?_, ?_, hlast⟩
          · intro fuel hfuel
            obtain ⟨fuel, rfl⟩ : ∃ k, fuel = k + 1 := ⟨fuel - 1, by omega⟩
            rw [SearchIndex.follow, hexecute]
            show (match page.nextCursor with
              | none => _
              | some next => _) = _
            rw [hnext]
            dsimp only
            rw [hfollow fuel (by omega)]
            rfl
          · rw [List.cons_append, List.flatMap_cons, hflat]
            rw [show page.groups = (index.windowFrom offset).take (limits asked) from hgroups]
            exact windowFrom_append hnonneg (limits asked)
          · rw [List.forall_mem_cons]
            exact ⟨hhas, hmores⟩

end Follow

end Pages

/-- Paging reaches every result of the window once. Following the next cursors from the first page
gives the window's results in order, with more to come on every page but the last; what is asked of
the index stays in its window; a cursor is accepted for a day as what it was issued for; and a page
comes back after the next one. -/
theorem paging_reaches_every_result (index : SearchIndex Hit) (searchExactTotalLimit : ℕ) :
    (∀ (filtered : Bool) (limits : ℕ → ℕ) (instants : ℕ → TimeValue),
      (∀ k, 1 ≤ limits k) →
      (∀ k, (instants (k + 1)).ms - (instants k).ms ≤ cursorLifetimeMs) →
      ∃ pages last,
        (∀ fuel, maxResultWindow.toNat ≤ fuel →
          index.follow searchExactTotalLimit filtered limits instants fuel 0 none =
            .ok (pages ++ [last])) ∧
        (pages ++ [last]).flatMap SearchPage.groups =
          index.results.take (min index.results.length maxResultWindow.toNat) ∧
        (∀ page ∈ pages, page.hasMore = true) ∧ last.hasMore = false) ∧
    (∀ (query : SearchQuery) (nowMs offset : ℤ), 1 ≤ query.limit →
      offsetOf query.cursor nowMs = .ok offset →
      0 ≤ (searchBodyOf query offset).first ∧ 1 ≤ (searchBodyOf query offset).size ∧
        (searchBodyOf query offset).first + (searchBodyOf query offset).size ≤ maxResultWindow) ∧
    (∀ (query : SearchQuery) (now later : TimeValue) (page : SearchPage Hit),
      index.execute searchExactTotalLimit query now = .ok page →
      later.ms - now.ms ≤ cursorLifetimeMs →
      ∃ offset, offsetOf query.cursor now.ms = .ok offset ∧
        (∀ next, page.nextCursor = some next →
          offsetOf (some next) later.ms = .ok (offset + query.limit)) ∧
        (∀ prev, page.prevCursor = some prev →
          offsetOf (some prev) later.ms = .ok (max 0 (offset - query.limit)))) ∧
    (∀ (query : SearchQuery) (now between back : TimeValue) (page : SearchPage Hit) (next : String),
      1 ≤ query.limit → index.execute searchExactTotalLimit query now = .ok page →
      page.nextCursor = some next →
      between.ms - now.ms ≤ cursorLifetimeMs → back.ms - between.ms ≤ cursorLifetimeMs →
      ∃ after prev again,
        index.execute searchExactTotalLimit { query with cursor := some next } between =
          .ok after ∧
        after.prevCursor = some prev ∧
        index.execute searchExactTotalLimit { query with cursor := some prev } back = .ok again ∧
        SearchPage.Alike page again) := by
  refine ⟨?_, ?_, ?_, ?_⟩
  · intro filtered limits instants hlimits hinstants
    have hfirst : offsetOf none (instants 0).ms = .ok 0 := rfl
    obtain ⟨pages, last, hfollow, hflat, hmore, hlast⟩ := follow_window index
      searchExactTotalLimit filtered hlimits hinstants maxResultWindow.toNat 0 le_rfl (by decide)
      (by decide) hfirst
    refine ⟨pages, last, hfollow, ?_, hmore, hlast⟩
    rw [hflat]
    unfold SearchIndex.windowFrom
    rw [Int.toNat_zero, List.drop_zero, List.take_eq_take_iff]
    omega
  · intro query nowMs offset hlimit hoffset
    obtain ⟨hnonneg, hunder⟩ := offsetOf_under hoffset
    exact searchBodyOf_within hlimit hnonneg hunder
  · intro query now later page hpage hlife
    obtain ⟨offset, hoffset, hnonneg, hunder, rfl⟩ := execute_ok hpage
    refine ⟨offset, hoffset, ?_, ?_⟩
    · intro next hnext
      exact offsetOf_nextCursor hnonneg hunder hlife hnext
    · intro prev hprev
      exact offsetOf_prevCursor hunder hlife hprev
  · intro query now between back page next hlimit hpage hnext hbetween hback
    obtain ⟨offset, hoffset, hnonneg, hunder, rfl⟩ := execute_ok hpage
    exact execute_back hnonneg hunder hbetween hback hlimit hnext

/-- Three results, two a page, a minute apart. -/
theorem paging_reaches_every_result_sample :
    ∃ pages last,
      (∀ fuel, maxResultWindow.toNat ≤ fuel →
        (SearchIndex.mk ["a", "b", "c"] (some 3)).follow 1000 false (fun _ => 2)
          (fun k => ⟨1790000000000 + 60000 * (min k 3 : ℕ), by omega⟩) fuel 0 none =
            .ok (pages ++ [last])) ∧
      (pages ++ [last]).flatMap SearchPage.groups = ["a", "b", "c"] ∧
      (∀ page ∈ pages, page.hasMore = true) ∧ last.hasMore = false :=
  (paging_reaches_every_result (SearchIndex.mk ["a", "b", "c"] (some 3)) 1000).1 false (fun _ => 2)
    (fun k => ⟨1790000000000 + 60000 * (min k 3 : ℕ), by omega⟩) (fun _ => by decide)
    (fun k => by
      have hlifetime : cursorLifetimeMs = 86400000 := by decide
      dsimp only
      omega)

end Arthome.Catalog
