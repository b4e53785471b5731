import Arthome.Ticketing.CatalogFacts
import Arthome.Ticketing.PaymentMovements

/-!
# The count of a waiting list

`waitlist_count` is a number kept beside the list: moved by one as an account joins
or leaves, by the rows a set-based statement updated as a window ends, and to zero
as the list ends. Each transaction that moves it, or an entry, holds the date's row.
It is read here as the size of the list. A statement on the entries is a `ListMoved`
with what it adds to the list; a transaction keeps `Waitlisted` because the count it
writes moves by as much.
-/

namespace Arthome.Ticketing

open Arthome.Core Library

/-- On the date's list. -/
def isListed (dateId : Uuid) (entry : WaitlistEntrySnapshot) : Bool :=
  entry.dateId = dateId && WaitlistEntry.isOnList entry

/-- What a date's list holds one entry for at most. -/
def registrationOf (entry : WaitlistEntrySnapshot) : Uuid × Uuid := (entry.dateId, entry.accountId)

section Lists

variable {dateId : Uuid} {db db' : Db}

/-- The entries of one date moved, `delta` more of them on its list. -/
structure ListMoved (dateId : Uuid) (entries entries' : Table WaitlistEntrySnapshot.id)
    (delta : ℤ) : Prop where
  counted : ∀ d, (entries'.rows.countP (isListed d) : ℤ) =
    entries.rows.countP (isListed d) + if d = dateId then delta else 0
  others : ∀ entry ∈ entries'.rows, entry.dateId = dateId ∨ entry ∈ entries.rows
  once : (entries.rows.map registrationOf).Nodup → (entries'.rows.map registrationOf).Nodup

theorem ListMoved.trans {entries mid entries' : Table WaitlistEntrySnapshot.id} {first second : ℤ}
    (h : ListMoved dateId entries mid first) (h' : ListMoved dateId mid entries' second) :
    ListMoved dateId entries entries' (first + second) where
  counted d := by
    have hfirst := h.counted d
    have hsecond := h'.counted d
    split_ifs at hfirst hsecond ⊢ <;> omega
  others entry hentry := by
    rcases h'.others entry hentry with hdate | hmid
    · exact .inl hdate
    · exact h.others entry hmid
  once honce := h'.once (h.once honce)

theorem isListed_of_ne {entry : WaitlistEntrySnapshot} {d : Uuid} (h : entry.dateId ≠ d) :
    isListed d entry = false := by
  simp [isListed, h]

theorem isListed_of_eq {entry : WaitlistEntrySnapshot} {d : Uuid} (h : entry.dateId = d) :
    isListed d entry = WaitlistEntry.isOnList entry := by
  simp [isListed, h]

/-- An entry of a date's list is on it once moved, unless it is moved off. -/
theorem isListed_moved {entry moved : WaitlistEntrySnapshot} {d : Uuid}
    (hdate : entry.dateId = dateId) (hlisted : WaitlistEntry.isOnList entry = true)
    (hmoved : moved.dateId = entry.dateId) :
    isListed d moved =
      (isListed d entry && !(decide (d = dateId) && !WaitlistEntry.isOnList moved)) := by
  by_cases hd : d = dateId
  · have hsame : entry.dateId = d := hdate.trans hd.symm
    rw [isListed_of_eq hsame, isListed_of_eq (hmoved.trans hsame), hlisted]
    simp [hd]
  · have hne : entry.dateId ≠ d := fun h => hd (h.symm.trans hdate)
    rw [isListed_of_ne hne, isListed_of_ne (hmoved ▸ hne)]
    rfl

@[simp] theorem saveEntry_entries (entry : WaitlistEntrySnapshot) :
    (db.saveEntry entry).entries = db.entries.put entry := rfl

/-- A registration written for the first time. -/
theorem insertEntry_listMoved {entry : WaitlistEntrySnapshot}
    (h : db.insertEntry entry = .ok db') :
    db' = { db with entries := db'.entries } ∧
      (∀ other ∈ db'.entries.rows, other = entry ∨ other ∈ db.entries.rows) ∧
      ListMoved entry.dateId db.entries db'.entries
        (if WaitlistEntry.isOnList entry then 1 else 0) := by
  unfold Db.insertEntry at h
  simp only [bind_ok_iff, orRefuse_ok_iff, require_ok_iff, pure_ok_iff] at h
  obtain ⟨_, hfresh, entries, hinsert, rfl⟩ := h
  have hrows := (Table.insert_eq_some hinsert).1
  refine ⟨rfl, fun other hother => ((Table.mem_insert hinsert).mp hother).symm, ?_, ?_, ?_⟩
  · intro d
    rw [Table.countP_insert hinsert]
    by_cases hd : d = entry.dateId
    · rw [isListed_of_eq hd.symm, if_pos hd]
    · rw [isListed_of_ne (Ne.symm hd), if_neg hd]
      simp
  · intro other hother
    rcases (Table.mem_insert hinsert).mp hother with hother | rfl
    · exact .inr hother
    · exact .inl rfl
  · intro honce
    rw [hrows, List.map_append, List.map_singleton]
    refine List.Nodup.append honce (List.nodup_singleton _) ?_
    rw [List.disjoint_singleton]
    intro hmem
    obtain ⟨other, hother, hsame⟩ := List.mem_map.mp hmem
    have hnone := List.find?_eq_none.mp hfresh other hother
    rw [registrationOf, registrationOf, Prod.mk.injEq] at hsame
    simp [hsame] at hnone

/-- A registration written again. -/
theorem saveEntry_listMoved {entry stored : WaitlistEntrySnapshot}
    (hstored : db.entries.find? entry.id = some stored)
    (hsame : registrationOf entry = registrationOf stored) :
    ListMoved entry.dateId db.entries (db.saveEntry entry).entries
      ((if WaitlistEntry.isOnList entry then 1 else 0) -
        if WaitlistEntry.isOnList stored then 1 else 0) := by
  have hdate : stored.dateId = entry.dateId := (congrArg Prod.fst hsame).symm
  refine ⟨?_, ?_, ?_⟩
  · intro d
    have hput := Table.countP_put hstored (isListed d)
    rw [saveEntry_entries]
    by_cases hd : d = entry.dateId
    · rw [isListed_of_eq hd.symm, isListed_of_eq (hdate.trans hd.symm)] at hput
      rw [if_pos hd]
      omega
    · have hne : stored.dateId ≠ d := fun h => hd (h.symm.trans hdate)
      rw [isListed_of_ne (Ne.symm hd), isListed_of_ne hne] at hput
      rw [if_neg hd]
      simpa using hput
  · intro other hother
    rcases (Table.mem_put hstored).mp hother with rfl | ⟨hkept, -⟩
    · exact .inl rfl
    · exact .inr hkept
  · intro honce
    rw [saveEntry_entries, Table.map_put hstored hsame]
    exact honce

end Lists

section Statements

variable [SalesRules] {dateId : Uuid} {db db' : Db} {moved : ℕ} {now : Instant}

/-- A set-based move from states of the list takes as many off it as it moves, if the target is
off it, and none otherwise. -/
theorem moveEntries_listMoved {sources : List WaitlistEntryState} {target : WaitlistEntryState}
    {chosen : WaitlistEntrySnapshot → Bool} {set : WaitlistEntrySnapshot → WaitlistEntrySnapshot}
    (h : db.moveEntries dateId sources target chosen set = .ok (db', moved))
    (hsources : ∀ state ∈ sources, isOnWaitlist (some state) = true)
    (hset : ∀ entry, (set entry).accountId = entry.accountId) :
    db' = { db with entries := db'.entries } ∧
      ListMoved dateId db.entries db'.entries
        (if isOnWaitlist (some target) then 0 else -(moved : ℤ)) ∧
      ∀ entry ∈ db'.entries.rows, entry.dateId = dateId →
        entry.state = target ∨
          entry ∈ db.entries.rows ∧ ¬ (entry.state ∈ sources ∧ chosen entry = true) := by
  unfold Db.moveEntries at h
  simp only [bind_ok_iff, pure_ok_iff] at h
  obtain ⟨_, -, h⟩ := h
  obtain ⟨rfl, rfl⟩ := Prod.mk.inj h
  refine ⟨rfl, ⟨?_, ?_, ?_⟩, ?_⟩
  · intro d
    let moves := fun entry : WaitlistEntrySnapshot =>
      entry.dateId = dateId && entry.state ∈ sources && chosen entry
    let leaving := fun entry => moves entry && (d = dateId && !isOnWaitlist (some target))
    have hmoves : ∀ entry, moves entry = true →
        entry.dateId = dateId ∧ WaitlistEntry.isOnList entry = true := by
      intro entry hentry
      simp only [moves, Bool.and_eq_true, decide_eq_true_eq] at hentry
      exact ⟨hentry.1.1, hsources entry.state hentry.1.2⟩
    have hin : ∀ entry ∈ db.entries.rows, leaving entry = true → isListed d entry = true := by
      intro entry _ hleaving
      simp only [leaving, Bool.and_eq_true, decide_eq_true_eq] at hleaving
      obtain ⟨hentry, hd, -⟩ := hleaving
      obtain ⟨hdate, hlisted⟩ := hmoves entry hentry
      rwa [isListed_of_eq (hdate.trans hd.symm)]
    have hcount : (db.entries.rows.countP leaving : ℤ) =
        if d = dateId ∧ isOnWaitlist (some target) = false then
          ((db.entries.rows.filter moves).length : ℤ) else 0 := by
      simp only [leaving]
      split_ifs with hleaving
      · simp [hleaving, List.countP_eq_length_filter]
      · have hstay : (decide (d = dateId) && !isOnWaitlist (some target)) = false := by
          simpa using hleaving
        simp [hstay]
    rw [Table.countP_update ?_ hin, hcount]
    · by_cases hd : d = dateId <;> cases isOnWaitlist (some target) <;> simp [hd, moves]
      omega
    · intro entry _
      change isListed d (if moves entry then _ else entry) = (isListed d entry && !leaving entry)
      by_cases hentry : moves entry = true
      · obtain ⟨hdate, hlisted⟩ := hmoves entry hentry
        rw [if_pos hentry, isListed_moved hdate hlisted]
        · simp [leaving, hentry, WaitlistEntry.isOnList]
        · rfl
      · simp [leaving, hentry]
  · intro entry hentry
    obtain ⟨before, hbefore, rfl⟩ := List.mem_map.mp hentry
    split_ifs with hmoves
    · simp only [Bool.and_eq_true, decide_eq_true_eq] at hmoves
      exact .inl hmoves.1.1
    · exact .inr hbefore
  · intro honce
    rw [Table.update_rows, List.map_map]
    refine (List.map_congr_left fun entry _ => ?_) ▸ honce
    simp only [Function.comp]
    split_ifs
    · simp only [registrationOf, hset]
    · rfl
  · intro entry hentry hdate
    obtain ⟨before, hbefore, rfl⟩ := List.mem_map.mp hentry
    split_ifs at hdate ⊢ with hmoves
    · exact .inl rfl
    · refine .inr ⟨hbefore, fun hmoved => hmoves ?_⟩
      simp only [Bool.and_eq_true, decide_eq_true_eq]
      exact ⟨⟨hdate, hmoved.1⟩, hmoved.2⟩

/-- Every account waiting is told, and none leaves the list. -/
theorem notifyAll_listMoved (h : db.notifyAll dateId now = .ok db') :
    db' = { db with entries := db'.entries } ∧ ListMoved dateId db.entries db'.entries 0 := by
  unfold Db.notifyAll at h
  simp only [bind_ok_iff, pure_ok_iff] at h
  obtain ⟨⟨told, count⟩, hmove, rfl⟩ := h
  obtain ⟨hframe, hlist, -⟩ := moveEntries_listMoved hmove (by decide) fun _ => rfl
  exact ⟨hframe, hlist⟩

/-- A window's end takes every notified entry off the list, and answers how many. -/
theorem endNotified_listMoved {otherwise : WaitlistEntryState}
    (h : db.endNotified dateId otherwise now = .ok (db', moved))
    (hoff : isOnWaitlist (some otherwise) = false) :
    db' = { db with entries := db'.entries } ∧
      ListMoved dateId db.entries db'.entries (-(moved : ℤ)) ∧
      ∀ entry ∈ db'.entries.rows, entry.dateId = dateId → entry.state ≠ .notified := by
  unfold Db.endNotified at h
  simp only [bind_ok_iff, pure_ok_iff] at h
  obtain ⟨⟨converted, count⟩, hconvert, ⟨ended, rest⟩, hend, h⟩ := h
  obtain ⟨rfl, rfl⟩ := Prod.mk.inj h
  obtain ⟨hframe, hlist, -⟩ := moveEntries_listMoved hconvert (by decide) fun _ => rfl
  obtain ⟨hframe', hlist', hstates⟩ := moveEntries_listMoved hend (by decide) fun _ => rfl
  rw [hoff] at hlist'
  refine ⟨?_, ?_, ?_⟩
  · rw [hframe', hframe]
  · have hboth := hlist.trans hlist'
    have hsum : -((count + rest : ℕ) : ℤ) = -(count : ℤ) + -(rest : ℤ) := by
      push_cast
      omega
    rw [hsum]
    exact hboth
  · intro entry hentry hdate hnotified
    rcases hstates entry hentry hdate with htarget | ⟨-, hkept⟩
    · rw [← htarget, hnotified] at hoff
      cases hoff
    · exact hkept ⟨by simp [hnotified], rfl⟩

/-- The end of the list takes every waiting entry off it. -/
theorem closeWaiting_listMoved (h : db.closeWaiting dateId now = .ok db') :
    db' = { db with entries := db'.entries } ∧
      (∃ closed : ℕ, ListMoved dateId db.entries db'.entries (-(closed : ℤ))) ∧
      ∀ entry ∈ db'.entries.rows, entry.dateId = dateId →
        entry.state ≠ .waiting ∧ (entry.state = .notified → entry ∈ db.entries.rows) := by
  unfold Db.closeWaiting at h
  simp only [bind_ok_iff, pure_ok_iff] at h
  obtain ⟨⟨closed, count⟩, hclose, rfl⟩ := h
  obtain ⟨hframe, hlist, hstates⟩ := moveEntries_listMoved hclose (by decide) fun _ => rfl
  refine ⟨hframe, ⟨count, hlist⟩, fun entry hentry hdate => ?_⟩
  rcases hstates entry hentry hdate with htarget | ⟨hkept, hwaiting⟩
  · exact ⟨by simp [htarget], by simp [htarget]⟩
  · exact ⟨fun hstate => hwaiting ⟨by simp [hstate], rfl⟩, fun _ => hkept⟩

end Statements

/-! ## The count is the list -/

section Invariant

variable {db db' : Db} {dateId : Uuid}

/-- Every date's count is the size of its list, a notified entry is in a window, and an account has
one entry for a date. -/
structure Waitlisted (db : Db) : Prop where
  counted : ∀ dateId row, db.sales.find? dateId = some row →
    row.waitlistCount = db.entries.rows.countP (isListed dateId)
  windowed : ∀ entry ∈ db.entries.rows, entry.state = .notified →
    ∀ row, db.sales.find? entry.dateId = some row → row.priorityUntil.isSome
  dated : ∀ entry ∈ db.entries.rows, (db.sales.find? entry.dateId).isSome
  once : (db.entries.rows.map registrationOf).Nodup

theorem waitlisted_empty : Waitlisted .empty where
  counted dateId row hrow := by cases hrow
  windowed entry hentry := by cases hentry
  dated entry hentry := by cases hentry
  once := List.nodup_nil

/-- One date's list and row moved together. -/
theorem Waitlisted.moved (h : Waitlisted db) {mid : Db} {row row' : DateSalesSnapshot} {delta : ℤ}
    (hrow : db.sales.find? dateId = some row) (hdate : row'.dateId = dateId)
    (hsales : mid.sales = db.sales) (hlist : ListMoved dateId db.entries mid.entries delta)
    (hcount : row'.waitlistCount = mid.entries.rows.countP (isListed dateId))
    (hwindow : ∀ entry ∈ mid.entries.rows, entry.dateId = dateId → entry.state = .notified →
      row'.priorityUntil.isSome) : Waitlisted (mid.putSales row') := by
  have hself : (db.sales.put row').find? dateId = some row' := by
    rw [← hdate] at hrow ⊢
    exact Table.find?_put_self hrow
  have hother : ∀ d, d ≠ dateId → (db.sales.put row').find? d = db.sales.find? d := by
    intro d hd
    exact Table.find?_put_of_ne (hdate ▸ Ne.symm hd)
  refine ⟨?_, ?_, ?_, hlist.once h.once⟩
  · intro d found hfound
    rw [Db.putSales_sales, hsales] at hfound
    by_cases hd : d = dateId
    · rw [hd, hself] at hfound
      obtain rfl := Option.some.inj hfound
      rw [hd]
      exact hcount
    · rw [hother d hd] at hfound
      have hcounted := hlist.counted d
      rw [if_neg hd] at hcounted
      have hkept := h.counted d found hfound
      rw [Db.putSales_entries]
      omega
  · intro entry hentry hnotified found hfound
    rw [Db.putSales_sales, hsales] at hfound
    by_cases hd : entry.dateId = dateId
    · rw [hd, hself] at hfound
      obtain rfl := Option.some.inj hfound
      exact hwindow entry hentry hd hnotified
    · rw [hother entry.dateId hd] at hfound
      exact h.windowed entry ((hlist.others entry hentry).resolve_left hd) hnotified found hfound
  · intro entry hentry
    rw [Db.putSales_sales, hsales]
    by_cases hd : entry.dateId = dateId
    · rw [hd, hself]
      rfl
    · rw [hother entry.dateId hd]
      exact h.dated entry ((hlist.others entry hentry).resolve_left hd)

/-- The lists as they were: no entry written, no date's count or window moved. -/
structure SameWaitlists (db db' : Db) : Prop where
  entries : db'.entries = db.entries
  rows : ∀ dateId, (db'.sales.find? dateId).map (fun row => (row.waitlistCount, row.priorityUntil)) =
    (db.sales.find? dateId).map fun row => (row.waitlistCount, row.priorityUntil)

theorem SameWaitlists.refl (db : Db) : SameWaitlists db db := ⟨rfl, fun _ => rfl⟩

theorem SameWaitlists.of_tables (hentries : db'.entries = db.entries)
    (hsales : db'.sales = db.sales) : SameWaitlists db db' :=
  ⟨hentries, fun dateId => by rw [hsales]⟩

/-- A date's row rewritten, its count and its window as they were. -/
theorem SameWaitlists.putSales {row row' : DateSalesSnapshot}
    (hrow : db.sales.find? dateId = some row) (hdate : row'.dateId = dateId)
    (hcount : row'.waitlistCount = row.waitlistCount)
    (huntil : row'.priorityUntil = row.priorityUntil) : SameWaitlists db (db.putSales row') where
  entries := rfl
  rows d := by
    rw [Db.putSales_sales]
    rw [← hdate] at hrow
    by_cases hd : row'.dateId = d
    · rw [← hd, Table.find?_put_self hrow, hrow, Option.map_some, Option.map_some, hcount, huntil]
    · rw [Table.find?_put_of_ne hd]

theorem SameWaitlists.trans {mid : Db} (h : SameWaitlists db mid) (h' : SameWaitlists mid db') :
    SameWaitlists db db' :=
  ⟨h'.entries.trans h.entries, fun dateId => (h'.rows dateId).trans (h.rows dateId)⟩

theorem Waitlisted.of_same (h : Waitlisted db) (hsame : SameWaitlists db db') : Waitlisted db' := by
  have hback : ∀ d row', db'.sales.find? d = some row' → ∃ row, db.sales.find? d = some row ∧
      row'.waitlistCount = row.waitlistCount ∧ row'.priorityUntil = row.priorityUntil := by
    intro d row' hrow'
    have hrows := hsame.rows d
    rw [hrow', Option.map_some] at hrows
    obtain ⟨row, hrow, hfields⟩ := Option.map_eq_some_iff.mp hrows.symm
    obtain ⟨hcount, huntil⟩ := Prod.mk.inj hfields
    exact ⟨row, hrow, hcount.symm, huntil.symm⟩
  refine ⟨?_, ?_, ?_, ?_⟩
  · intro d row' hrow'
    obtain ⟨row, hrow, hcount, -⟩ := hback d row' hrow'
    rw [hcount, hsame.entries]
    exact h.counted d row hrow
  · intro entry hentry hnotified row' hrow'
    rw [hsame.entries] at hentry
    obtain ⟨row, hrow, -, huntil⟩ := hback entry.dateId row' hrow'
    rw [huntil]
    exact h.windowed entry hentry hnotified row hrow
  · intro entry hentry
    rw [hsame.entries] at hentry
    have hdated := h.dated entry hentry
    rw [← Option.isSome_map, hsame.rows, Option.isSome_map]
    exact hdated
  · rw [hsame.entries]
    exact h.once

end Invariant

/-! ## What each transaction keeps -/

section Transactions

variable [SalesRules] {db db' : Db} {dateId accountId : Uuid} {now : Instant}

omit [SalesRules] in
theorem findByAccount_ok {entry : WaitlistEntrySnapshot}
    (h : db.findByAccount dateId accountId = some entry) :
    db.entries.find? entry.id = some entry ∧ entry.dateId = dateId ∧ entry.accountId = accountId := by
  have hmem := List.mem_of_find?_eq_some h
  have hfound := List.find?_some h
  simp only [Bool.and_eq_true, decide_eq_true_eq] at hfound
  exact ⟨Table.find?_of_mem hmem, hfound⟩

omit [SalesRules] in
theorem moveWaitlistCount_ok {delta : ℤ} {refusal : Refusal}
    (h : orRefuse (db.moveWaitlistCount dateId delta) refusal = .ok db') :
    ∃ row, db.sales.find? dateId = some row ∧
      db' = db.putSales { row with waitlistCount := row.waitlistCount + delta } := by
  obtain ⟨row, hrow, -, hmoved⟩ := updateSales_some (orRefuse_ok_iff.mp h)
  exact ⟨row, hrow, hmoved⟩

omit [SalesRules] in
/-- The count moved by what one statement added to the list, a notified entry in a window. -/
theorem Waitlisted.counted_move (h : Waitlisted db) {mid : Db} {delta : ℤ}
    {refusal : Refusal} (hsales : mid.sales = db.sales)
    (hlist : ListMoved dateId db.entries mid.entries delta)
    (hwindow : ∀ entry ∈ mid.entries.rows, entry.state = .notified → entry ∈ db.entries.rows ∨
      ∀ row, db.sales.find? dateId = some row → row.priorityUntil.isSome)
    (hmove : orRefuse (mid.moveWaitlistCount dateId delta) refusal = .ok db') : Waitlisted db' := by
  obtain ⟨row, hrow, rfl⟩ := moveWaitlistCount_ok hmove
  rw [hsales] at hrow
  have hdate : row.dateId = dateId := Table.key_of_find? hrow
  refine h.moved hrow hdate hsales hlist ?_ ?_
  · have hcounted := hlist.counted dateId
    have hkept := h.counted dateId row hrow
    rw [if_pos rfl] at hcounted
    rw [hcounted, ← hkept]
  · intro entry hentry hentryDate hnotified
    rcases hwindow entry hentry hnotified with hkept | hopen
    · exact h.windowed entry hkept hnotified row (hentryDate ▸ hrow)
    · exact hopen row hrow

section Joining

variable [LawfulWaitlistRules]

theorem onList_stateOnJoin (windowOpen : Bool) :
    isOnWaitlist (some (SalesRules.waitlistStateOnJoin windowOpen)) = true := by
  rw [LawfulWaitlistRules.state_on_join]
  cases windowOpen with
  | false => rfl
  | true => rfl

/-- Only into an open window is an account notified at once. -/
theorem window_of_notified {priorityUntil : Option Instant}
    (h : SalesRules.waitlistStateOnJoin (SalesRules.isPriorityWindowOpen priorityUntil now) =
      .notified) : priorityUntil.isSome := by
  rw [LawfulWaitlistRules.state_on_join] at h
  split_ifs at h with hopen
  exact LawfulWaitlistRules.window_until priorityUntil now hopen

theorem rejoin_ok {entry moved : WaitlistEntrySnapshot} {priorityUntil : Option Instant}
    (h : WaitlistEntry.rejoin entry priorityUntil now = .ok moved) :
    moved.id = entry.id ∧ registrationOf moved = registrationOf entry ∧
      WaitlistEntry.isOnList moved = true ∧ (moved.state = .notified → priorityUntil.isSome) := by
  unfold WaitlistEntry.rejoin WaitlistEntry.moveTo at h
  simp only [bind_ok_iff, require_ok_iff, pure_ok_iff] at h
  obtain ⟨_, ⟨_, -, rfl⟩, rfl⟩ := h
  exact ⟨rfl, rfl, onList_stateOnJoin _, window_of_notified⟩

theorem joinIn_waitlisted (h : Waitlisted db) {entryId : Uuid}
    (hjoin : joinIn db dateId accountId entryId now = .ok db') : Waitlisted db' := by
  unfold joinIn at hjoin
  simp only [bind_ok_iff] at hjoin
  obtain ⟨sales, hsales, _, -, salesEndAt, -, hjoin⟩ := hjoin
  have hrow : db.sales.find? dateId = some sales := orRefuse_ok_iff.mp hsales
  split at hjoin
  · rename_i entry hentry
    split_ifs at hjoin with hlisted
    · rw [pure_ok_iff] at hjoin
      exact hjoin ▸ h
    · simp only [bind_ok_iff] at hjoin
      obtain ⟨_, -, moved, hrejoin, hmove⟩ := hjoin
      obtain ⟨hstored, hdate, haccount⟩ := findByAccount_ok hentry
      obtain ⟨hid, hsame, hon, hwindow⟩ := rejoin_ok hrejoin
      have hmoved : moved.dateId = dateId := (congrArg Prod.fst hsame).trans hdate
      have hlist := saveEntry_listMoved (hid ▸ hstored) hsame
      rw [if_pos hon, if_neg hlisted, sub_zero, hmoved] at hlist
      have hsaved : (db.saveEntry moved).sales = db.sales := rfl
      refine h.counted_move hsaved hlist ?_ hmove
      intro other hother hnotified
      rcases (Table.mem_put (hid ▸ hstored)).mp hother with rfl | ⟨hkept, -⟩
      · right
        intro row hfound
        rw [hrow] at hfound
        obtain rfl := Option.some.inj hfound
        exact hwindow hnotified
      · exact .inl hkept
  · simp only [bind_ok_iff] at hjoin
    obtain ⟨_, -, mid, hinsert, hmove⟩ := hjoin
    obtain ⟨hframe, hmem, hlist⟩ := insertEntry_listMoved hinsert
    have hon : WaitlistEntry.isOnList
        (WaitlistEntry.join entryId dateId accountId sales.priorityUntil now) = true :=
      onList_stateOnJoin _
    have hdate : (WaitlistEntry.join entryId dateId accountId sales.priorityUntil now).dateId =
        dateId := rfl
    rw [if_pos hon, hdate] at hlist
    have hkept : mid.sales = db.sales := by rw [hframe]
    refine h.counted_move hkept hlist ?_ hmove
    intro other hother hnotified
    rcases hmem other hother with rfl | hbefore
    · right
      intro row hfound
      rw [hrow] at hfound
      obtain rfl := Option.some.inj hfound
      exact window_of_notified hnotified
    · exact .inl hbefore

end Joining

/-- An account leaving a list it is on takes one off it. -/
theorem leaveIn_waitlisted (h : Waitlisted db)
    (hleave : leaveIn db dateId accountId now = .ok db') : Waitlisted db' := by
  unfold leaveIn at hleave
  simp only [bind_ok_iff] at hleave
  obtain ⟨_, -, hleave⟩ := hleave
  split at hleave
  · rw [pure_ok_iff] at hleave
    exact hleave ▸ h
  · rename_i entry hentry
    obtain ⟨hstored, hdate, -⟩ := findByAccount_ok hentry
    rw [bind_ok_iff] at hleave
    obtain ⟨left, hleft, hleave⟩ := hleave
    unfold WaitlistEntry.leave WaitlistEntry.moveTo at hleft
    split_ifs at hleft with hlisted
    · simp only [bind_ok_iff, pure_ok_iff] at hleft
      obtain ⟨_, ⟨_, -, rfl⟩, rfl⟩ := hleft
      let gone : WaitlistEntrySnapshot :=
        { entry with state := .left, endedAt := some now, version := entry.version + 1 }
      have hgone : db.entries.find? gone.id = some entry := hstored
      have hlist := saveEntry_listMoved hgone rfl
      have hoff : ¬ WaitlistEntry.isOnList gone = true := by
        simp [gone, WaitlistEntry.isOnList, isOnWaitlist]
      have hgoneDate : gone.dateId = dateId := hdate
      rw [if_neg hoff, if_pos hlisted, zero_sub, hgoneDate] at hlist
      have hsaved : (db.saveEntry gone).sales = db.sales := rfl
      refine h.counted_move hsaved hlist ?_ hleave
      intro other hother hnotified
      rcases (Table.mem_put hgone).mp hother with rfl | ⟨hkept, -⟩
      · cases hnotified
      · exact .inl hkept
    · rw [pure_ok_iff] at hleft
      obtain rfl := hleft
      rw [pure_ok_iff] at hleave
      exact hleave ▸ h

omit [SalesRules] in
/-- A date's row saved by its aggregate, its count and its window left as they were. -/
theorem saveSales_same {sales current : DateSalesSnapshot}
    (hsales : db.sales.find? dateId = some sales) (hdate : current.dateId = dateId)
    (hcount : current.waitlistCount = sales.waitlistCount)
    (huntil : current.priorityUntil = sales.priorityUntil)
    (hsave : db.saveSales sales current = .ok db') : SameWaitlists db db' := by
  obtain rfl := saveSales_datedRows hsales hdate hsave
  exact SameWaitlists.putSales hsales hdate hcount huntil

/-- A window's end takes its notified entries off the list and off the count. -/
theorem endDuePriorityWindow_waitlisted (h : Waitlisted db) {ended : Bool}
    (hend : endDuePriorityWindow db dateId now = .ok (db', ended)) : Waitlisted db' := by
  unfold endDuePriorityWindow at hend
  split at hend
  · obtain ⟨rfl, -⟩ := Prod.mk.inj (pure_ok_iff.mp hend)
    exact h
  · rename_i claimed hclaimed
    obtain ⟨hrow, hdue⟩ := Option.filter_eq_some_iff.mp hclaimed
    have hopen : claimed.priorityUntil.isSome = true := by
      obtain ⟨priorityUntil, hpriority, -⟩ := Option.any_eq_true _ _ |>.mp hdue
      rw [hpriority]
      rfl
    simp only [bind_ok_iff] at hend
    obtain ⟨⟨mid, entriesEnded⟩, hentries, after, hwindow, hend⟩ := hend
    obtain ⟨rfl, -⟩ := Prod.mk.inj (pure_ok_iff.mp hend)
    have hoff : isOnWaitlist (some (if claimed.outcome.any SalesRules.outcomeEndsWaitlist
        then WaitlistEntryState.closed else .lapsed)) = false := by
      split_ifs
      · rfl
      · rfl
    obtain ⟨hframe, hlist, hnone⟩ := endNotified_listMoved hentries hoff
    have hsales : mid.sales = db.sales := by rw [hframe]
    unfold Db.endPriorityWindow at hwindow
    simp only [bind_ok_iff, pure_ok_iff] at hwindow
    obtain ⟨_, -, rfl⟩ := hwindow
    rw [updateSales_eq (hsales ▸ hrow), if_pos hopen, Option.getD_some]
    have hdate : claimed.dateId = dateId := Table.key_of_find? hrow
    refine h.moved hrow hdate hsales hlist ?_ ?_
    · have hcounted := hlist.counted dateId
      have hkept := h.counted dateId claimed hrow
      rw [if_pos rfl] at hcounted
      rw [hcounted, ← hkept]
      rfl
    · intro entry hentry hentryDate hnotified
      exact (hnone entry hentry hentryDate hnotified).elim

/-- A tier opened for the list opens its window; the count does not move. -/
theorem openIn_waitlisted (h : Waitlisted db) {body : OpenCapacityTierBody} {tierId : Uuid}
    (hopen : openIn db dateId body tierId now = .ok db') : Waitlisted db' := by
  unfold openIn at hopen
  simp only [bind_ok_iff] at hopen
  obtain ⟨⟨due, ended⟩, hdue, sales, hsales, ⟨current, priorityUntil⟩, hwiden, saved, hsave,
    hopen⟩ := hopen
  have hended := endDuePriorityWindow_waitlisted h hdue
  have hrow : due.sales.find? dateId = some sales := orRefuse_ok_iff.mp hsales
  obtain ⟨-, -, hcurrent⟩ := DateSales.openCapacityTier_ok hwiden
  have hsalesDate : sales.dateId = dateId := Table.key_of_find? hrow
  have hdate : current.dateId = dateId := by
    rw [hcurrent]
    exact hsalesDate
  have hcount : current.waitlistCount = sales.waitlistCount := by rw [hcurrent]
  have huntil : current.priorityUntil = priorityUntil.or sales.priorityUntil := by rw [hcurrent]
  cases priorityUntil with
  | none =>
      obtain rfl := pure_ok_iff.mp hopen
      exact hended.of_same (saveSales_same hrow hdate hcount huntil hsave)
  | some priorityUntil =>
      obtain rfl := saveSales_datedRows hrow hdate hsave
      obtain ⟨hframe, hlist⟩ := notifyAll_listMoved hopen
      have hput : db' = ({ due with entries := db'.entries } : Db).putSales current := hframe
      rw [hput]
      refine hended.moved hrow hdate rfl hlist ?_ ?_
      · have hcounted := hlist.counted dateId
        have hkept := hended.counted dateId sales hrow
        rw [if_pos rfl] at hcounted
        rw [hcount, hkept, hcounted, add_zero]
      · intro entry _ _ _
        rw [huntil]
        rfl

omit [SalesRules] in
theorem closeWaitlist_putSales {row : DateSalesSnapshot} (hrow : db.sales.find? dateId = some row) :
    ∃ row', row'.dateId = row.dateId ∧ row'.waitlistCount = 0 ∧
      db.closeWaitlist dateId = db.putSales row' := by
  unfold Db.closeWaitlist
  rw [updateSales_eq hrow]
  split_ifs with hmoves
  · refine ⟨_, ?_, ?_, Option.getD_some⟩
    · rfl
    · rfl
  · simp only [Bool.or_eq_true, decide_eq_true_eq, not_or, not_not] at hmoves
    have hkept : db.putSales row = db := by
      unfold Db.putSales
      rw [Table.put_self (Table.key_of_find? hrow ▸ hrow)]
    exact ⟨row, rfl, hmoves.2, hkept.symm⟩

/-- The end of a closed date's list leaves nobody on it. -/
theorem endWaitlist_waitlisted (h : Waitlisted db)
    (hend : endWaitlist db dateId now = .ok db') : Waitlisted db' := by
  unfold endWaitlist at hend
  split at hend
  · exact pure_ok_iff.mp hend ▸ h
  · rename_i settlement _
    split_ifs at hend with halready hnone
    · exact pure_ok_iff.mp hend ▸ h
    · simp only [bind_ok_iff, pure_ok_iff] at hend
      obtain ⟨_, rfl, rfl⟩ := hend
      exact h.of_same (.of_tables rfl rfl)
    · simp only [bind_ok_iff, pure_ok_iff] at hend
      obtain ⟨⟨mid, n⟩, hnotified, closed, hclosed, _, rfl, rfl⟩ := hend
      suffices hwaitlisted : Waitlisted (closed.closeWaitlist dateId) from
        hwaitlisted.of_same (.of_tables rfl rfl)
      cases hrow : db.sales.find? dateId with
      | none => exact (hnone (by rw [hrow]; rfl)).elim
      | some row =>
          obtain ⟨hframe, hlist, hcleared⟩ := endNotified_listMoved hnotified rfl
          obtain ⟨hframe', ⟨n', hlist'⟩, hstates⟩ := closeWaiting_listMoved hclosed
          have hsales : closed.sales = db.sales := by rw [hframe', hframe]
          have hnobody : ∀ entry ∈ closed.entries.rows, entry.dateId = dateId →
              entry.state ≠ .waiting ∧ entry.state ≠ .notified := by
            intro entry hentry hdate
            obtain ⟨hwaiting, hkept⟩ := hstates entry hentry hdate
            refine ⟨hwaiting, fun hnotifiedState => ?_⟩
            exact hcleared entry (hkept hnotifiedState) hdate hnotifiedState
          obtain ⟨row', hdate, hcount, hput⟩ := closeWaitlist_putSales (hsales ▸ hrow)
          rw [hput]
          refine h.moved hrow (hdate.trans (Table.key_of_find? hrow)) hsales (hlist.trans hlist')
            ?_ ?_
          · have hempty : closed.entries.rows.countP (isListed dateId) = 0 := by
              rw [List.countP_eq_zero]
              intro entry hentry hlisted
              simp only [isListed, WaitlistEntry.isOnList, isOnWaitlist, Bool.and_eq_true,
                Bool.or_eq_true, decide_eq_true_eq, Option.some.injEq] at hlisted
              obtain ⟨hwaiting, hnotNotified⟩ := hnobody entry hentry hlisted.1
              exact hlisted.2.elim hwaiting hnotNotified
            rw [hcount, hempty]
            rfl
          · intro entry hentry hentryDate hstate
            exact ((hnobody entry hentry hentryDate).2 hstate).elim

/-- Nothing decided about a sale moves its count, and only a tier moves its window. -/
theorem perform_waitlist {op : SaleOperation} {sales sales' : DateSalesSnapshot}
    (hop : ∀ expectedVersion additionalCapacity notifyWaitlist tierId,
      op ≠ .openCapacityTier expectedVersion additionalCapacity notifyWaitlist tierId)
    (h : op.perform sales now = some sales') :
    sales'.waitlistCount = sales.waitlistCount ∧ sales'.priorityUntil = sales.priorityUntil := by
  cases op with
  | lockPrices engagedAt =>
      simp only [SaleOperation.perform, DateSales.lockPrices] at h
      split_ifs at h
      exact Option.some.inj h ▸ ⟨rfl, rfl⟩
  | recordSchedule startsAt statedAt =>
      simp only [SaleOperation.perform, DateSales.recordSchedule] at h
      split_ifs at h
      · exact Option.some.inj h ▸ ⟨rfl, rfl⟩
      · exact Option.some.inj h ▸ ⟨rfl, rfl⟩
  | recordOutcome outcome statedAt =>
      simp only [SaleOperation.perform, DateSales.recordOutcome] at h
      split_ifs at h
      · exact Option.some.inj h ▸ ⟨rfl, rfl⟩
      · exact Option.some.inj h ▸ ⟨rfl, rfl⟩
  | endSales =>
      simp only [SaleOperation.perform, DateSales.endSales] at h
      cases hend : sales.salesEndAt with
      | none => simp only [hend, reduceCtorEq] at h
      | some salesEndAt =>
          simp only [hend] at h
          split_ifs at h
          exact Option.some.inj h ▸ ⟨rfl, rfl⟩
  | holdSeats quantity =>
      obtain ⟨-, -, rfl⟩ := DateSales.holdSeats_ok (toOption_eq_some_iff.mp h)
      exact ⟨rfl, rfl⟩
  | setPrices expectedVersion tiers =>
      obtain ⟨-, rfl⟩ := DateSales.setPrices_ok (toOption_eq_some_iff.mp h)
      exact ⟨rfl, rfl⟩
  | openCapacityTier expectedVersion additionalCapacity notifyWaitlist tierId =>
      exact (hop expectedVersion additionalCapacity notifyWaitlist tierId rfl).elim
  | setTechnicalProvision expectedVersion provisionedCapacity =>
      rw [DateSales.setTechnicalProvision_ok (toOption_eq_some_iff.mp h)]
      exact ⟨rfl, rfl⟩

/-- An operation performed on the row just read, and saved. -/
theorem performed_same {op : SaleOperation} {sales current : DateSalesSnapshot}
    (hop : ∀ expectedVersion additionalCapacity notifyWaitlist tierId,
      op ≠ .openCapacityTier expectedVersion additionalCapacity notifyWaitlist tierId)
    (hsales : db.sales.find? dateId = some sales) (hperform : op.perform sales now = some current)
    (hsave : db.saveSales sales current = .ok db') : SameWaitlists db db' := by
  obtain ⟨hcount, huntil⟩ := perform_waitlist hop hperform
  have hdate : current.dateId = dateId :=
    (SaleOperation.perform_dateId hperform).trans (Table.key_of_find? hsales)
  obtain rfl := saveSales_datedRows hsales hdate hsave
  exact SameWaitlists.putSales hsales hdate hcount huntil

theorem setPricesIn_same {expectedVersion : ℕ} {tiers : List TierPrice}
    (h : setPricesIn db dateId expectedVersion tiers = .ok db') : SameWaitlists db db' := by
  unfold setPricesIn commandIn at h
  simp only [bind_ok_iff] at h
  obtain ⟨sales, hsales, current, hcurrent, hsave⟩ := h
  have hperform : (SaleOperation.setPrices expectedVersion tiers).perform sales 0 = some current :=
    toOption_eq_some_iff.mpr hcurrent
  exact performed_same (by simp) (orRefuse_ok_iff.mp hsales) hperform hsave

theorem setTechnicalProvisionIn_same {expectedVersion : ℕ} {provisionedCapacity : ℤ}
    (h : setTechnicalProvisionIn db dateId expectedVersion provisionedCapacity now = .ok db') :
    SameWaitlists db db' := by
  unfold setTechnicalProvisionIn commandIn at h
  simp only [bind_ok_iff] at h
  obtain ⟨sales, hsales, current, hcurrent, hsave⟩ := h
  have hperform : (SaleOperation.setTechnicalProvision expectedVersion provisionedCapacity).perform
      sales now = some current := toOption_eq_some_iff.mpr hcurrent
  exact performed_same (by simp) (orRefuse_ok_iff.mp hsales) hperform hsave

theorem closeEndedSale_same (h : closeEndedSale db dateId now = .ok db') :
    SameWaitlists db db' := by
  unfold closeEndedSale at h
  split at h
  · exact pure_ok_iff.mp h ▸ .refl db
  · rename_i sales ended hended
    obtain ⟨row, hrow, hmap⟩ := Option.bind_eq_some_iff.mp hended
    obtain ⟨closed, hclosed, hpair⟩ := Option.map_eq_some_iff.mp hmap
    obtain ⟨rfl, rfl⟩ := Prod.mk.inj hpair
    have hperform : SaleOperation.endSales.perform row now = some closed := hclosed
    exact performed_same (by simp) hrow hperform h

omit [SalesRules] in
/-- A date opens with an empty list; no entry names it yet. -/
theorem draftedIn_waitlisted (h : Waitlisted db) {channelId : Uuid}
    (hdraft : draftedIn db dateId channelId = .ok db') : Waitlisted db' := by
  unfold draftedIn at hdraft
  split_ifs at hdraft
  · exact pure_ok_iff.mp hdraft ▸ h
  · unfold Db.insertSales at hdraft
    simp only [bind_ok_iff, orRefuse_ok_iff, pure_ok_iff] at hdraft
    obtain ⟨inserted, hinsert, rfl⟩ := hdraft
    have hfresh : db.sales.find? dateId = none := (Table.insert_eq_some hinsert).2
    have hundated : ∀ entry ∈ db.entries.rows, entry.dateId ≠ dateId := by
      intro entry hentry hdate
      have hdated := h.dated entry hentry
      rw [hdate, hfresh] at hdated
      cases hdated
    have hother : ∀ d, d ≠ dateId → inserted.find? d = db.sales.find? d := by
      intro d hd
      exact Table.find?_insert_of_ne hinsert (Ne.symm hd)
    refine ⟨?_, ?_, ?_, h.once⟩
    · intro d row hrow
      by_cases hd : d = dateId
      · have hself : inserted.find? dateId = some (DateSales.opened dateId channelId) :=
          Table.find?_insert_self hinsert
        have hempty : db.entries.rows.countP (isListed dateId) = 0 := by
          rw [List.countP_eq_zero]
          intro entry hentry
          rw [isListed_of_ne (hundated entry hentry)]
          exact Bool.false_ne_true
        rw [hd, hself] at hrow
        obtain rfl := Option.some.inj hrow
        rw [hd, hempty]
        rfl
      · exact h.counted d row (hother d hd ▸ hrow)
    · intro entry hentry hnotified row hrow
      exact h.windowed entry hentry hnotified row (hother _ (hundated entry hentry) ▸ hrow)
    · intro entry hentry
      rw [hother _ (hundated entry hentry)]
      exact h.dated entry hentry

theorem movedIn_same {fact : CatalogDateFact} (h : movedIn db dateId fact now = .ok db') :
    SameWaitlists db db' := by
  unfold movedIn at h
  split at h
  rename_i moved seatsMoved hmoved
  have hstart : SameWaitlists db moved := by
    split at hmoved
    · unfold moveSeatCancelDeadlines at hmoved
      simp only at hmoved
      split_ifs at hmoved
      · obtain ⟨rfl, -⟩ := Prod.mk.inj hmoved
        exact .refl _
      · obtain ⟨rfl, -⟩ := Prod.mk.inj hmoved
        exact .of_tables rfl rfl
    · obtain ⟨rfl, -⟩ := Prod.mk.inj hmoved
      exact .refl _
  rw [bind_ok_iff] at h
  obtain ⟨sales, hsales, h⟩ := h
  have hrow : moved.sales.find? dateId = some sales := orRefuse_ok_iff.mp hsales
  split at h
  · simp only [bind_ok_iff, pure_ok_iff] at h
    obtain ⟨_, -, rfl⟩ := h
    exact hstart
  · rename_i current hcurrent
    rw [bind_ok_iff] at h
    obtain ⟨saved, hsave, h⟩ := h
    have hsaved : SameWaitlists moved saved := by
      cases fact with
      | drafted channelId => cases hcurrent
      | lock statedAt =>
          have hperform : (SaleOperation.lockPrices statedAt).perform sales now = some current :=
            hcurrent
          exact performed_same (by simp) hrow hperform hsave
      | start startsAt statedAt =>
          have hperform : (SaleOperation.recordSchedule startsAt statedAt).perform sales now =
              some current := hcurrent
          exact performed_same (by simp) hrow hperform hsave
      | outcome declared statedAt =>
          have hperform : (SaleOperation.recordOutcome declared statedAt).perform sales now =
              some current := hcurrent
          exact performed_same (by simp) hrow hperform hsave
    refine (hstart.trans hsaved).trans ?_
    split at h
    · split_ifs at h
      · obtain rfl := pure_ok_iff.mp h
        unfold recordOutcomeToSettle
        split
        · exact .refl _
        · exact .of_tables rfl rfl
      · exact pure_ok_iff.mp h ▸ .refl saved
    · exact pure_ok_iff.mp h ▸ .refl saved

theorem applyCatalogDateFact_waitlisted (h : Waitlisted db) {fact : CatalogDateFact}
    (hfact : applyCatalogDateFact db dateId fact now = .ok db') : Waitlisted db' := by
  cases fact with
  | drafted channelId => exact draftedIn_waitlisted h hfact
  | lock statedAt =>
      have hmoved : movedIn db dateId (.lock statedAt) now = .ok db' := hfact
      exact h.of_same (movedIn_same hmoved)
  | start startsAt statedAt =>
      have hmoved : movedIn db dateId (.start startsAt statedAt) now = .ok db' := hfact
      exact h.of_same (movedIn_same hmoved)
  | outcome declared statedAt =>
      have hmoved : movedIn db dateId (.outcome declared statedAt) now = .ok db' := hfact
      exact h.of_same (movedIn_same hmoved)

omit [SalesRules] in
/-- A statement on a date's seats alone. -/
theorem updateSales_same {condition : DateSalesSnapshot → Bool}
    {set : DateSalesSnapshot → DateSalesSnapshot}
    (h : db.updateSales dateId condition set = some db')
    (hset : ∀ row, (set row).dateId = row.dateId ∧ (set row).waitlistCount = row.waitlistCount ∧
      (set row).priorityUntil = row.priorityUntil) : SameWaitlists db db' := by
  obtain ⟨row, hrow, -, rfl⟩ := updateSales_some h
  obtain ⟨hdate, hcount, huntil⟩ := hset row
  exact SameWaitlists.putSales hrow (hdate.trans (Table.key_of_find? hrow)) hcount huntil

omit [SalesRules] in
theorem takeSeats_same {quantity : ℕ} (h : db.takeSeats dateId quantity now = some db') :
    SameWaitlists db db' := updateSales_same h fun _ => ⟨rfl, rfl, rfl⟩

omit [SalesRules] in
theorem takeAndSellSeats_same {quantity : ℕ} {fromPool : Bool}
    (h : db.takeAndSellSeats dateId quantity now fromPool = some db') : SameWaitlists db db' :=
  updateSales_same h fun _ => ⟨rfl, rfl, rfl⟩

omit [SalesRules] in
theorem releaseSoldSeats_same {quantity : ℕ}
    (h : db.releaseSoldSeats dateId quantity = some db') : SameWaitlists db db' :=
  updateSales_same h fun _ => ⟨rfl, rfl, rfl⟩

end Transactions

/-! ## Runs -/

/-- A transaction that moves a date's list, its window or its sale. -/
inductive WaitlistAction where
  | join (dateId accountId entryId : Uuid) (now : Instant)
  | leave (dateId accountId : Uuid) (now : Instant)
  | openTier (dateId : Uuid) (body : OpenCapacityTierBody) (tierId : Uuid) (now : Instant)
  | endWindow (dateId : Uuid) (now : Instant)
  | endWaitlist (dateId : Uuid) (now : Instant)
  | applyFact (dateId : Uuid) (fact : CatalogDateFact) (now : Instant)
  | endSale (dateId : Uuid) (now : Instant)
  | setPrices (dateId : Uuid) (expectedVersion : ℕ) (tiers : List TierPrice)
  | setTechnicalProvision (dateId : Uuid) (expectedVersion : ℕ) (provisionedCapacity : ℤ)
      (now : Instant)
  deriving Repr, DecidableEq

section Runs

variable [SalesRules] {db db' : Db}

def WaitlistAction.perform (db : Db) : WaitlistAction → Except Refusal Db
  | .join dateId accountId entryId now => joinIn db dateId accountId entryId now
  | .leave dateId accountId now => leaveIn db dateId accountId now
  | .openTier dateId body tierId now => openIn db dateId body tierId now
  | .endWindow dateId now => (endDuePriorityWindow db dateId now).map Prod.fst
  | .endWaitlist dateId now => Arthome.Ticketing.endWaitlist db dateId now
  | .applyFact dateId fact now => applyCatalogDateFact db dateId fact now
  | .endSale dateId now => closeEndedSale db dateId now
  | .setPrices dateId expectedVersion tiers => setPricesIn db dateId expectedVersion tiers
  | .setTechnicalProvision dateId expectedVersion provisionedCapacity now =>
      setTechnicalProvisionIn db dateId expectedVersion provisionedCapacity now

/-- One transaction committed: one of the list's, or another that leaves the lists as they were. -/
inductive WaitlistStep (db : Db) : Db → Prop
  | performed {db' : Db} (action : WaitlistAction) (h : action.perform db = .ok db') :
      WaitlistStep db db'
  | elsewhere {db' : Db} (h : SameWaitlists db db') : WaitlistStep db db'

/-- Transactions one after the other. -/
theorem reaches_foldlM (actions : List WaitlistAction)
    (h : actions.foldlM WaitlistAction.perform db = .ok db') :
    Relation.ReflTransGen WaitlistStep db db' := by
  induction actions generalizing db with
  | nil =>
      obtain rfl := pure_ok_iff.mp h
      exact .refl
  | cons action actions ih =>
      rw [List.foldlM_cons, bind_ok_iff] at h
      obtain ⟨mid, hfirst, hrest⟩ := h
      exact (ih hrest).head (.performed action hfirst)

variable [LawfulWaitlistRules]

/-- Each transaction keeps every date's count the size of its list. -/
theorem WaitlistStep.waitlisted (hstep : WaitlistStep db db') (h : Waitlisted db) :
    Waitlisted db' := by
  cases hstep with
  | elsewhere hsame => exact h.of_same hsame
  | performed action hdone =>
      cases action with
      | join dateId accountId entryId now => exact joinIn_waitlisted h hdone
      | leave dateId accountId now => exact leaveIn_waitlisted h hdone
      | openTier dateId body tierId now => exact openIn_waitlisted h hdone
      | endWindow dateId now =>
          cases hend : endDuePriorityWindow db dateId now with
          | error refusal => simp [WaitlistAction.perform, hend, Except.map] at hdone
          | ok result =>
              simp only [WaitlistAction.perform, hend, Except.map, Except.ok.injEq] at hdone
              exact hdone ▸ endDuePriorityWindow_waitlisted h hend
      | endWaitlist dateId now => exact endWaitlist_waitlisted h hdone
      | applyFact dateId fact now => exact applyCatalogDateFact_waitlisted h hdone
      | endSale dateId now => exact h.of_same (closeEndedSale_same hdone)
      | setPrices dateId expectedVersion tiers => exact h.of_same (setPricesIn_same hdone)
      | setTechnicalProvision dateId expectedVersion provisionedCapacity now =>
          exact h.of_same (setTechnicalProvisionIn_same hdone)

/-- A run keeps it, whatever its transactions and their order. -/
theorem Waitlisted.run (h : Waitlisted db) (hrun : Relation.ReflTransGen WaitlistStep db db') :
    Waitlisted db' := by
  induction hrun with
  | refl => exact h
  | tail _ hstep ih => exact hstep.waitlisted ih

/-- In every state reached a date's count is the number of its entries waiting or notified; one is
notified only in a window; an account has one entry. -/
theorem waitlist_count_eq_list (hrun : Relation.ReflTransGen WaitlistStep .empty db)
    (dateId : Uuid) :
    (∀ row, db.sales.find? dateId = some row →
      row.waitlistCount = db.entries.rows.countP (isListed dateId) ∧ 0 ≤ row.waitlistCount) ∧
    (∀ entry ∈ db.entries.rows, entry.dateId = dateId → entry.state = .notified →
      ∃ row, db.sales.find? dateId = some row ∧ row.priorityUntil.isSome) ∧
    ∀ entry ∈ db.entries.rows, ∀ other ∈ db.entries.rows, entry.dateId = dateId →
      other.dateId = dateId → entry.accountId = other.accountId → entry = other := by
  have hwaitlisted := waitlisted_empty.run hrun
  refine ⟨?_, ?_, ?_⟩
  · intro row hrow
    have hcounted := hwaitlisted.counted dateId row hrow
    exact ⟨hcounted, by omega⟩
  · intro entry hentry hdate hnotified
    obtain ⟨row, hrow⟩ := Option.isSome_iff_exists.mp (hwaitlisted.dated entry hentry)
    exact ⟨row, hdate ▸ hrow, hwaitlisted.windowed entry hentry hnotified row hrow⟩
  · intro entry hentry other hother hdate hdate' haccount
    have hsame : registrationOf entry = registrationOf other :=
      Prod.ext (hdate.trans hdate'.symm) haccount
    exact List.inj_on_of_nodup_map hwaitlisted.once hentry hother hsame

end Runs

section Sample

open Sample

/-- A sold-out date's list: two accounts join around a tier opened for the first, which leaves. -/
def sampleWaitlist : Except Refusal Db :=
  [.applyFact 1 (.drafted 2) 0, .applyFact 1 (.lock 1) 1, .applyFact 1 (.start 10000 2) 2,
    .join 1 11 21 100, .openTier 1 ⟨3, 5, true⟩ 31 200, .join 1 12 22 300,
    .leave 1 11 400].foldlM WaitlistAction.perform Db.empty

theorem waitlist_count_eq_list_sample :
    ∃ db row, sampleWaitlist = .ok db ∧ db.sales.find? 1 = some row ∧ row.waitlistCount = 1 ∧
      db.entries.rows.countP (isListed 1) = 1 ∧ row.priorityUntil.isSome := by
  have hseen : (sampleWaitlist.toOption.bind fun db => (db.sales.find? 1).map fun row =>
      (row.waitlistCount, row.priorityUntil.isSome)) = some (1, true) := by decide
  obtain ⟨db, hdb, hrow⟩ := Option.bind_eq_some_iff.mp hseen
  obtain ⟨row, hrow, hfields⟩ := Option.map_eq_some_iff.mp hrow
  obtain ⟨hcount, hwindow⟩ := Prod.mk.inj hfields
  have hrun : sampleWaitlist = .ok db := toOption_eq_some_iff.mp hdb
  obtain ⟨hcounted, -, -⟩ := waitlist_count_eq_list (reaches_foldlM _ hrun) 1
  have hlist := (hcounted row hrow).1
  exact ⟨db, row, hrun, hrow, hcount, by omega, hwindow⟩

end Sample

end Arthome.Ticketing
