import Mathlib.Algebra.BigOperators.Group.List.Basic
import Mathlib.Algebra.Order.BigOperators.Group.List
import Mathlib.Data.List.Nodup
import Mathlib.Tactic.Linarith
import Mathlib.Tactic.Ring

/-!
# Keyed lists and tables

Rows are kept in a list, each under a key read off the row. A `Table` carries
the proof that its keys are pairwise distinct, so that at most one row answers a
key. The rules say what an insertion, a replacement of one row and a set-based
update do to the row a key answers and to a total taken over all rows.
-/

namespace Arthome.Library

section KeyedLists

variable {α β κ : Type} [DecidableEq κ]

/-- With distinct keys, one key contributes at most once to a sum. -/
theorem sum_ite_key_le (xs : List α) (key : α → κ) (hkeys : (xs.map key).Nodup) (k : κ)
    (w : ℤ) (hw : 0 ≤ w) (g : α → ℤ) (hg : ∀ x ∈ xs, 0 ≤ g x) :
    (xs.map fun x => if key x = k then w else g x).sum ≤ w + (xs.map g).sum := by
  induction xs with
  | nil => simpa using hw
  | cons x xs ih =>
      rw [List.map_cons, List.nodup_cons] at hkeys
      rw [List.forall_mem_cons] at hg
      simp only [List.map_cons, List.sum_cons]
      by_cases hx : key x = k
      · have hrest : (xs.map fun y => if key y = k then w else g y) = xs.map g := by
          apply List.map_congr_left
          intro y hy
          have hne : key y ≠ k := fun h => hkeys.1 (List.mem_map.mpr ⟨y, hy, h.trans hx.symm⟩)
          rw [if_neg hne]
        rw [if_pos hx, hrest]
        linarith [hg.1]
      · rw [if_neg hx]
        linarith [ih hkeys.2 hg.2]

/-- Looked up by distinct keys, the weights found sum to at most all the weights there are. -/
theorem sum_find_le (xs : List α) (key : α → κ) (hkeys : (xs.map key).Nodup) (ys : List β)
    (name : β → κ) (w : β → ℤ) (hw : ∀ y ∈ ys, 0 ≤ w y) :
    (xs.map fun x => ((ys.find? fun y => name y = key x).map w).getD 0).sum ≤
      (ys.map w).sum := by
  induction ys with
  | nil => simp
  | cons y ys ih =>
      rw [List.forall_mem_cons] at hw
      have hrest := ih hw.2
      have hsplit : (xs.map fun x =>
          (((y :: ys).find? fun y => name y = key x).map w).getD 0) =
          xs.map fun x => if key x = name y then w y
            else ((ys.find? fun y => name y = key x).map w).getD 0 := by
        apply List.map_congr_left
        intro x _
        by_cases h : key x = name y
        · rw [List.find?_cons_of_pos (by simp [h]), if_pos h]
          rfl
        · rw [List.find?_cons_of_neg (by simp [Ne.symm h]), if_neg h]
      have hstep := sum_ite_key_le xs key hkeys (name y) (w y) hw.1
        (fun x => ((ys.find? fun y => name y = key x).map w).getD 0) (by
          intro x _
          cases hfind : ys.find? fun y => name y = key x with
          | none => simp
          | some z => simpa using hw.2 z (List.mem_of_find?_eq_some hfind))
      rw [hsplit, List.map_cons, List.sum_cons]
      linarith

/-- With distinct keys, a key that is there contributes exactly once. -/
theorem sum_ite_key (xs : List α) (key : α → κ) (hkeys : (xs.map key).Nodup) {k : κ}
    (hk : k ∈ xs.map key) (w : ℤ) (g : α → ℤ) (hg : ∀ x ∈ xs, key x = k → g x = 0) :
    (xs.map fun x => if key x = k then w else g x).sum = w + (xs.map g).sum := by
  induction xs with
  | nil => cases hk
  | cons x xs ih =>
      rw [List.map_cons, List.nodup_cons] at hkeys
      rw [List.forall_mem_cons] at hg
      simp only [List.map_cons, List.sum_cons]
      by_cases hx : key x = k
      · have hrest : (xs.map fun y => if key y = k then w else g y) = xs.map g := by
          apply List.map_congr_left
          intro y hy
          have hne : key y ≠ k := fun h => hkeys.1 (List.mem_map.mpr ⟨y, hy, h.trans hx.symm⟩)
          rw [if_neg hne]
        rw [if_pos hx, hrest, hg.1 hx]
        ring
      · have hlater : k ∈ xs.map key := by
          rcases List.mem_cons.mp hk with h | h
          · exact absurd h.symm hx
          · exact h
        rw [if_neg hx, ih hkeys.2 hlater hg.2]
        ring

/-- Looked up under distinct names that are all keys, the weights found are all there are. -/
theorem sum_find_eq (xs : List α) (key : α → κ) (hkeys : (xs.map key).Nodup) (ys : List β)
    (name : β → κ) (hnames : (ys.map name).Nodup) (hsub : ∀ y ∈ ys, name y ∈ xs.map key)
    (w : β → ℤ) :
    (xs.map fun x => ((ys.find? fun y => name y = key x).map w).getD 0).sum =
      (ys.map w).sum := by
  induction ys with
  | nil => simp
  | cons y ys ih =>
      rw [List.map_cons, List.nodup_cons] at hnames
      rw [List.forall_mem_cons] at hsub
      have hsplit : (xs.map fun x =>
          (((y :: ys).find? fun y => name y = key x).map w).getD 0) =
          xs.map fun x => if key x = name y then w y
            else ((ys.find? fun y => name y = key x).map w).getD 0 := by
        apply List.map_congr_left
        intro x _
        by_cases h : key x = name y
        · rw [List.find?_cons_of_pos (by simp [h]), if_pos h]
          rfl
        · rw [List.find?_cons_of_neg (by simp [Ne.symm h]), if_neg h]
      have hgone : ∀ x ∈ xs, key x = name y →
          ((ys.find? fun y => name y = key x).map w).getD 0 = 0 := by
        intro x _ hx
        have hnone : (ys.find? fun z => name z = key x) = none := by
          rw [List.find?_eq_none]
          intro z hz
          simp only [decide_eq_true_eq]
          exact fun h => hnames.1 (List.mem_map.mpr ⟨z, hz, h.trans hx⟩)
        rw [hnone]
        rfl
      rw [hsplit, sum_ite_key xs key hkeys hsub.1 (w y) _ hgone, ih hnames.2 hsub.2,
        List.map_cons, List.sum_cons]

/-- With distinct keys, a key finds the one member that has it. -/
theorem find?_eq_some_iff_of_nodup {xs : List α} {key : α → κ} (hkeys : (xs.map key).Nodup)
    {k : κ} {x : α} : xs.find? (fun y => key y = k) = some x ↔ x ∈ xs ∧ key x = k := by
  constructor
  · intro h
    exact ⟨List.mem_of_find?_eq_some h, by simpa using List.find?_some h⟩
  · rintro ⟨hx, hk⟩
    cases hfind : xs.find? fun y => key y = k with
    | none => exact absurd hk (by simpa using List.find?_eq_none.mp hfind x hx)
    | some y =>
        have hy : key y = k := by simpa using List.find?_some hfind
        exact congrArg some
          (List.inj_on_of_nodup_map hkeys (List.mem_of_find?_eq_some hfind) hx (hy.trans hk.symm))

theorem find?_eq_none_iff_not_mem {xs : List α} {key : α → κ} {k : κ} :
    xs.find? (fun y => key y = k) = none ↔ k ∉ xs.map key := by
  simp [List.find?_eq_none]

omit [DecidableEq κ] in
/-- Under distinct keys, one element rewritten into a counted one counts one more. -/
theorem countP_map_of_nodup {xs : List α} {key : α → κ} (hkeys : (xs.map key).Nodup) {x : α}
    (hx : x ∈ xs) (f : α → α) (p : α → Bool) (hp : p x = false) (hfp : p (f x) = true)
    (hrest : ∀ y ∈ xs, key y ≠ key x → p (f y) = p y) :
    (xs.map f).countP p = xs.countP p + 1 := by
  induction xs with
  | nil => cases hx
  | cons y ys ih =>
      rw [List.map_cons, List.nodup_cons] at hkeys
      rw [List.forall_mem_cons] at hrest
      rw [List.map_cons, List.countP_cons, List.countP_cons]
      rcases List.mem_cons.mp hx with rfl | hmem
      · have hsame : ∀ z ∈ ys, p (f z) = p z := fun z hz =>
          hrest.2 z hz fun h => hkeys.1 (List.mem_map.mpr ⟨z, hz, h⟩)
        have hcount : (ys.map f).countP p = ys.countP p := by
          rw [List.countP_map]
          exact List.countP_congr fun z hz => by simp [hsame z hz]
        rw [hcount, hp, hfp]
        simp
      · have hne : key y ≠ key x := fun h =>
          hkeys.1 (List.mem_map.mpr ⟨x, hmem, h.symm⟩)
        rw [ih hkeys.2 hmem hrest.2, hrest.1 hne]
        ring

/-- Without the members under the first `n` keys, the rest is left. -/
theorem filter_key_notMem_take {xs : List α} {key : α → κ} (hkeys : (xs.map key).Nodup) (n : ℕ) :
    xs.filter (fun x => key x ∉ (xs.take n).map key) = xs.drop n := by
  have hsplit : ((xs.take n).map key ++ (xs.drop n).map key).Nodup := by
    rwa [← List.map_append, List.take_append_drop]
  have htaken : (xs.take n).filter (fun x => key x ∉ (xs.take n).map key) = [] := by
    apply List.filter_eq_nil_iff.mpr
    intro x hx
    have hkey : key x ∈ (xs.take n).map key := List.mem_map_of_mem hx
    rw [decide_eq_true_eq, not_not]
    exact hkey
  have hleft : (xs.drop n).filter (fun x => key x ∉ (xs.take n).map key) = xs.drop n := by
    apply List.filter_eq_self.mpr
    intro x hx
    rw [decide_eq_true_eq]
    intro hmem
    exact (List.nodup_append.mp hsplit).2.2 _ hmem _ (List.mem_map_of_mem hx) rfl
  calc
    xs.filter (fun x => key x ∉ (xs.take n).map key) =
        (xs.take n ++ xs.drop n).filter (fun x => key x ∉ (xs.take n).map key) := by
      rw [List.take_append_drop]
    _ = xs.drop n := by
      rw [List.filter_append, htaken, hleft, List.nil_append]

end KeyedLists

/-- Rows with pairwise distinct keys. -/
structure Table {α κ : Type} (key : α → κ) where
  rows : List α
  nodup : (rows.map key).Nodup

namespace Table

variable {α β κ : Type} {key : α → κ}

@[ext] theorem ext {t u : Table key} (h : t.rows = u.rows) : t = u := by
  cases t
  cases u
  cases h
  rfl

def empty : Table key := ⟨[], List.nodup_nil⟩

/-- A set-based update: every row rewritten in place, under its own key. -/
def update (t : Table key) (f : α → α) (hf : ∀ a, key (f a) = key a) : Table key :=
  ⟨t.rows.map f, by simpa [Function.comp_def, hf] using t.nodup⟩

@[simp] theorem update_rows (t : Table key) (f : α → α) (hf : ∀ a, key (f a) = key a) :
    (t.update f hf).rows = t.rows.map f := rfl

variable [DecidableEq κ]

/-- The row under a key. -/
def find? (t : Table key) (k : κ) : Option α := t.rows.find? fun a => key a = k

/-- The rows with new ones added, when every key stays distinct. -/
def insertAll (t : Table key) (new : List α) : Option (Table key) :=
  if h : ((t.rows ++ new).map key).Nodup then some ⟨t.rows ++ new, h⟩ else none

/-- One new row. -/
def insert (t : Table key) (a : α) : Option (Table key) := t.insertAll [a]

/-- The row under `a`'s key replaced by `a`; nothing when there is none. -/
def put (t : Table key) (a : α) : Table key :=
  t.update (fun r => if key r = key a then a else r) fun r => by
    split_ifs with h
    · exact h.symm
    · rfl

/-- The row under `a`'s key replaced by `a`, inserted when there is none. -/
def upsert (t : Table key) (a : α) : Table key := ((t.insert a).getD t).put a

section Rules

variable {t u : Table key} {k : κ} {a r : α}

theorem find?_eq_some_iff : t.find? k = some r ↔ r ∈ t.rows ∧ key r = k :=
  find?_eq_some_iff_of_nodup t.nodup

theorem find?_eq_none_iff : t.find? k = none ↔ k ∉ t.rows.map key :=
  find?_eq_none_iff_not_mem

theorem mem_of_find? (h : t.find? k = some r) : r ∈ t.rows := (find?_eq_some_iff.mp h).1

theorem key_of_find? (h : t.find? k = some r) : key r = k := (find?_eq_some_iff.mp h).2

theorem find?_of_mem (h : r ∈ t.rows) : t.find? (key r) = some r :=
  find?_eq_some_iff.mpr ⟨h, rfl⟩

omit [DecidableEq κ] in
theorem eq_of_mem (hr : r ∈ t.rows) (ha : a ∈ t.rows) (h : key r = key a) : r = a :=
  List.inj_on_of_nodup_map t.nodup hr ha h

theorem insertAll_eq_some {new : List α} (h : t.insertAll new = some u) :
    u.rows = t.rows ++ new ∧ ((t.rows ++ new).map key).Nodup := by
  unfold insertAll at h
  split_ifs at h with hnodup
  cases h
  exact ⟨rfl, hnodup⟩

theorem insert_eq_some (h : t.insert a = some u) :
    u.rows = t.rows ++ [a] ∧ t.find? (key a) = none := by
  obtain ⟨hrows, hnodup⟩ := insertAll_eq_some h
  refine ⟨hrows, find?_eq_none_iff.mpr fun hmem => ?_⟩
  rw [List.map_append, List.nodup_append] at hnodup
  exact hnodup.2.2 _ hmem _ (by simp) rfl

theorem mem_insert (h : t.insert a = some u) : r ∈ u.rows ↔ r ∈ t.rows ∨ r = a := by
  rw [(insert_eq_some h).1, List.mem_append, List.mem_singleton]

theorem find?_update (f : α → α) (hf : ∀ a, key (f a) = key a) :
    (t.update f hf).find? k = (t.find? k).map f := by
  cases h : t.find? k with
  | none =>
      rw [find?_eq_none_iff] at h
      rw [Option.map_none, find?_eq_none_iff]
      simpa [Function.comp_def, hf] using h
  | some r =>
      obtain ⟨hr, hk⟩ := find?_eq_some_iff.mp h
      rw [Option.map_some, find?_eq_some_iff]
      exact ⟨List.mem_map_of_mem hr, (hf r).trans hk⟩

theorem find?_put_self (h : t.find? (key a) = some r) : (t.put a).find? (key a) = some a := by
  rw [put, find?_update, h, Option.map_some, if_pos (key_of_find? h)]

theorem find?_put_of_ne (h : key a ≠ k) : (t.put a).find? k = t.find? k := by
  rw [put, find?_update]
  cases hfind : t.find? k with
  | none => rfl
  | some r =>
      rw [Option.map_some, if_neg fun hr => h (hr.symm.trans (key_of_find? hfind))]

/-- The rows of a table after one of them is replaced. -/
theorem mem_put (hr : t.find? (key a) = some r) {x : α} :
    x ∈ (t.put a).rows ↔ x = a ∨ x ∈ t.rows ∧ key x ≠ key a := by
  simp only [put, update_rows, List.mem_map]
  constructor
  · rintro ⟨y, hy, rfl⟩
    split_ifs with h
    · exact .inl rfl
    · exact .inr ⟨hy, h⟩
  · rintro (rfl | ⟨hx, hne⟩)
    · exact ⟨r, mem_of_find? hr, by rw [if_pos (key_of_find? hr)]⟩
    · exact ⟨x, hx, by rw [if_neg hne]⟩

/-- Of two replacements of one row the later stands. -/
theorem put_put {b : α} (h : key a = key b) : (t.put a).put b = t.put b := by
  refine ext ?_
  simp only [put, update_rows, List.map_map]
  refine List.map_congr_left fun x _ => ?_
  simp only [Function.comp]
  by_cases hx : key x = key b
  · rw [if_pos (hx.trans h.symm), if_pos h, if_pos hx]
  · have hxa : key x ≠ key a := fun hxa => hx (hxa.trans h)
    rw [if_neg hxa]

theorem put_self (h : t.find? (key r) = some r) : t.put r = t := by
  refine ext ?_
  simp only [put, update_rows]
  refine (List.map_congr_left fun x hx => ?_).trans (List.map_id _)
  split_ifs with hkey
  · exact (eq_of_mem hx (mem_of_find? h) hkey).symm
  · rfl

/-- A row inserted and then replaced is the replacement inserted. -/
theorem insert_put {b : α} (h : t.insert a = some u) (hkey : key b = key a) :
    t.insert b = some (u.put b) := by
  obtain ⟨hrows, hfresh⟩ := insert_eq_some h
  have hnodup : ((t.rows ++ [b]).map key).Nodup := by
    have hu := u.nodup
    rw [hrows, List.map_append] at hu
    simpa [hkey] using hu
  unfold insert insertAll
  rw [dif_pos hnodup]
  refine congrArg some (ext ?_)
  simp only [put, update_rows, hrows, List.map_append, List.map_cons, List.map_nil]
  refine congrArg₂ _ ((List.map_id _).symm.trans (List.map_congr_left fun x hx => ?_)) ?_
  · rw [if_neg]
    · rfl
    · intro hx'
      rw [find?_eq_none_iff] at hfresh
      exact hfresh (List.mem_map.mpr ⟨x, hx, hx'.trans hkey⟩)
  · rw [if_pos hkey.symm]

theorem find?_insert_self (h : t.insert a = some u) : u.find? (key a) = some a :=
  find?_eq_some_iff.mpr ⟨(mem_insert h).mpr (.inr rfl), rfl⟩

theorem find?_insert_of_ne (h : t.insert a = some u) (hne : key a ≠ k) : u.find? k = t.find? k := by
  cases hfind : t.find? k with
  | some r =>
      obtain ⟨hr, hk⟩ := find?_eq_some_iff.mp hfind
      exact find?_eq_some_iff.mpr ⟨(mem_insert h).mpr (.inl hr), hk⟩
  | none =>
      rw [find?_eq_none_iff] at hfind ⊢
      rw [(insert_eq_some h).1, List.map_append, List.mem_append]
      simpa [hne.symm] using hfind

theorem find?_of_insert (hinsert : t.insert a = some u) (hr : t.find? k = some r) :
    u.find? k = some r := by
  refine (find?_insert_of_ne hinsert fun hid => ?_).trans hr
  rw [← hid, (insert_eq_some hinsert).2] at hr
  cases hr

theorem find?_upsert_self (t : Table key) (a : α) : (t.upsert a).find? (key a) = some a := by
  unfold upsert
  cases hinsert : t.insert a with
  | some u => exact find?_put_self (find?_insert_self hinsert)
  | none =>
      rw [Option.getD_none]
      cases hkept : t.find? (key a) with
      | some r => exact find?_put_self hkept
      | none =>
          have hfresh := find?_eq_none_iff.mp hkept
          unfold insert insertAll at hinsert
          rw [dif_pos] at hinsert
          · cases hinsert
          · rw [List.map_append, List.nodup_append]
            refine ⟨t.nodup, by simp, ?_⟩
            intro k hk other hother hsame
            rw [List.map_singleton, List.mem_singleton] at hother
            exact hfresh (hother ▸ hsame ▸ hk)

theorem find?_upsert_of_ne (t : Table key) (h : key a ≠ k) : (t.upsert a).find? k = t.find? k := by
  unfold upsert
  rw [find?_put_of_ne h]
  cases hinsert : t.insert a with
  | some u => exact find?_insert_of_ne hinsert h
  | none => rfl

/-- The row found under a key after one row is replaced. -/
theorem find?_put (h : t.find? (key a) = some r) :
    (t.put a).find? k = if k = key a then some a else t.find? k := by
  split_ifs with hk
  · rw [hk]
    exact find?_put_self h
  · exact find?_put_of_ne (Ne.symm hk)

/-- The row found under a key after one is inserted. -/
theorem find?_insert (h : t.insert a = some u) :
    u.find? k = if k = key a then some a else t.find? k := by
  split_ifs with hk
  · rw [hk]
    exact find?_insert_self h
  · exact find?_insert_of_ne h (Ne.symm hk)

/-- The row found under a key after one is written, whether it was there or not. -/
theorem find?_upsert (t : Table key) (a : α) :
    (t.upsert a).find? k = if k = key a then some a else t.find? k := by
  split_ifs with hk
  · rw [hk]
    exact find?_upsert_self t a
  · exact find?_upsert_of_ne t (Ne.symm hk)

end Rules

section Totals

/-- The total of a weight over all rows. -/
def total (t : Table key) (w : α → ℤ) : ℤ := (t.rows.map w).sum

omit [DecidableEq κ] in
@[simp] theorem total_empty (w : α → ℤ) : (empty : Table key).total w = 0 := rfl

omit [DecidableEq κ] in
theorem total_update (t : Table key) (f : α → α) (hf : ∀ a, key (f a) = key a) (w : α → ℤ) :
    (t.update f hf).total w = t.total fun a => w (f a) := by
  simp [total, Function.comp_def]

omit [DecidableEq κ] in
theorem total_congr {t : Table key} {w v : α → ℤ} (h : ∀ r ∈ t.rows, w r = v r) :
    t.total w = t.total v := by
  unfold total
  rw [List.map_congr_left h]

omit [DecidableEq κ] in
theorem total_nonneg {t : Table key} {w : α → ℤ} (h : ∀ r ∈ t.rows, 0 ≤ w r) :
    0 ≤ t.total w :=
  List.sum_nonneg fun x hx => by
    obtain ⟨r, hr, rfl⟩ := List.mem_map.mp hx
    exact h r hr

omit [DecidableEq κ] in
theorem total_eq_zero {t : Table key} {w : α → ℤ} (h : ∀ r ∈ t.rows, w r = 0) : t.total w = 0 :=
  (total_congr h).trans (by simp [total])

theorem total_insert {t u : Table key} {a : α} (h : t.insert a = some u) (w : α → ℤ) :
    u.total w = t.total w + w a := by
  rw [total, (insert_eq_some h).1]
  simp [total]

theorem sum_map_replace (xs : List α) (hkeys : (xs.map key).Nodup) (a r : α) (hr : r ∈ xs)
    (hkey : key r = key a) (w : α → ℤ) :
    (xs.map fun x => w (if key x = key a then a else x)).sum + w r = (xs.map w).sum + w a := by
  induction xs with
  | nil => cases hr
  | cons x xs ih =>
      rw [List.map_cons, List.nodup_cons] at hkeys
      simp only [List.map_cons, List.sum_cons]
      rcases List.mem_cons.mp hr with rfl | hmem
      · have hrest : (xs.map fun x => w (if key x = key a then a else x)) = xs.map w := by
          refine List.map_congr_left fun y hy => ?_
          have hne : key y ≠ key a := fun h =>
            hkeys.1 (List.mem_map.mpr ⟨y, hy, h.trans hkey.symm⟩)
          rw [if_neg hne]
        rw [if_pos hkey, hrest]
        ring
      · have hne : key x ≠ key a := fun h =>
          hkeys.1 (List.mem_map.mpr ⟨r, hmem, hkey.trans h.symm⟩)
        rw [if_neg hne]
        linarith [ih hkeys.2 hmem]

/-- Replacing one row moves a total by the difference of the two rows. -/
theorem total_put {t : Table key} {a r : α} (h : t.find? (key a) = some r) (w : α → ℤ) :
    (t.put a).total w + w r = t.total w + w a := by
  rw [put, total_update]
  exact sum_map_replace t.rows t.nodup a r (mem_of_find? h) (key_of_find? h) w

omit [DecidableEq κ] in
/-- Counting is totalling ones. -/
theorem total_indicator (t : Table key) (p : α → Bool) :
    t.total (fun a => if p a then 1 else 0) = t.rows.countP p := by
  unfold total
  induction t.rows with
  | nil => rfl
  | cons a as ih =>
      rw [List.map_cons, List.sum_cons, List.countP_cons, ih]
      split_ifs
      · push_cast
        omega
      · omega

/-- Replacing one row moves a count by whether each of the two rows is counted. -/
theorem countP_put {t : Table key} {a r : α} (h : t.find? (key a) = some r) (p : α → Bool) :
    ((t.put a).rows.countP p : ℤ) + (if p r then 1 else 0) =
      t.rows.countP p + if p a then 1 else 0 := by
  have hput := total_put h fun x => if p x then 1 else 0
  rw [total_indicator, total_indicator] at hput
  exact hput

theorem countP_insert {t u : Table key} {a : α} (h : t.insert a = some u) (p : α → Bool) :
    (u.rows.countP p : ℤ) = t.rows.countP p + if p a then 1 else 0 := by
  have hinsert := total_insert h fun x => if p x then 1 else 0
  rw [total_indicator, total_indicator] at hinsert
  exact hinsert

omit [DecidableEq κ] in
/-- A set-based update that takes every row it chooses out of a count moves it by their number. -/
theorem countP_update {t : Table key} {f : α → α} {hf : ∀ a, key (f a) = key a} {p chosen : α → Bool}
    (hout : ∀ a ∈ t.rows, p (f a) = (p a && !chosen a)) (hin : ∀ a ∈ t.rows, chosen a → p a) :
    ((t.update f hf).rows.countP p : ℤ) = t.rows.countP p - t.rows.countP chosen := by
  have hcounts : (t.update f hf).total (fun a => if p a then 1 else 0) +
      t.total (fun a => if chosen a then 1 else 0) = t.total fun a => if p a then 1 else 0 := by
    rw [total_update]
    unfold total
    rw [← List.sum_map_add]
    refine congrArg List.sum (List.map_congr_left fun a ha => ?_)
    have hchosen := hin a ha
    rw [hout a ha]
    cases hp : p a <;> cases hc : chosen a <;> simp_all
  rw [total_indicator, total_indicator, total_indicator] at hcounts
  omega

/-- A column a replacement leaves as it was. -/
theorem map_put {t : Table key} {a r : α} (h : t.find? (key a) = some r) {f : α → β}
    (hf : f a = f r) : (t.put a).rows.map f = t.rows.map f := by
  simp only [put, update_rows, List.map_map]
  refine List.map_congr_left fun x hx => ?_
  simp only [Function.comp]
  split_ifs with hkey
  · rw [hf, eq_of_mem hx (mem_of_find? h) (hkey.trans (key_of_find? h).symm)]
  · rfl

end Totals

section UpdateEach

/-- One keyed update per item, in order: the row named by the item rewritten with it. -/
def updateEach (t : Table key) (items : List β) (name : β → κ) (write : β → α → α)
    (hwrite : ∀ b a, key (write b a) = key a) : Table key :=
  items.foldl (fun t b => t.update (fun a => if key a = name b then write b a else a) fun a => by
    split_ifs
    · exact hwrite b a
    · rfl) t

/-- Keyed updates keep every key. -/
theorem updateEach_keys (t : Table key) (items : List β) (name : β → κ) (write : β → α → α)
    (hwrite : ∀ b a, key (write b a) = key a) :
    (t.updateEach items name write hwrite).rows.map key = t.rows.map key := by
  induction items generalizing t with
  | nil => rfl
  | cons b items ih =>
      refine (ih _).trans ?_
      rw [update_rows, List.map_map]
      refine List.map_congr_left fun a _ => ?_
      simp only [Function.comp]
      split_ifs
      · exact hwrite b a
      · rfl

/-- Each row is rewritten by the items that name it, in order. -/
theorem updateEach_rows_foldl (t : Table key) (items : List β) (name : β → κ) (write : β → α → α)
    (hwrite : ∀ b a, key (write b a) = key a) :
    (t.updateEach items name write hwrite).rows = t.rows.map fun a =>
      items.foldl (fun a b => if key a = name b then write b a else a) a := by
  induction items generalizing t with
  | nil => simp [updateEach]
  | cons b items ih =>
      refine (ih _).trans ?_
      rw [update_rows, List.map_map]
      rfl

/-- Under distinct names each row is rewritten by the item that names it, if any. -/
theorem updateEach_rows (t : Table key) (items : List β) (name : β → κ) (write : β → α → α)
    (hwrite : ∀ b a, key (write b a) = key a) (hnames : (items.map name).Nodup) :
    (t.updateEach items name write hwrite).rows = t.rows.map fun a =>
      match items.find? fun b => name b = key a with
      | none => a
      | some b => write b a := by
  induction items generalizing t with
  | nil => simp [updateEach]
  | cons b items ih =>
      rw [List.map_cons, List.nodup_cons] at hnames
      simp only [updateEach, List.foldl_cons] at ih ⊢
      rw [ih _ hnames.2, update_rows, List.map_map]
      refine List.map_congr_left fun a _ => ?_
      simp only [Function.comp]
      by_cases h : key a = name b
      · have hnone : items.find? (fun c => name c = key a) = none := by
          rw [find?_eq_none_iff_not_mem, h]
          exact hnames.1
        simp only [if_pos h, hwrite, hnone, List.find?_cons_of_pos (l := items) (a := b)
          (p := fun c => decide (name c = key a)) (by simp [h])]
      · simp only [if_neg h, List.find?_cons_of_neg (l := items) (a := b)
          (p := fun c => decide (name c = key a)) (by simp [Ne.symm h])]

/-- A row replaced is an update of the row under its key. -/
theorem put_eq_update {t : Table key} {k : κ} {r : α} (f : α → α) (hf : ∀ a, key (f a) = key a)
    (h : t.find? k = some r) :
    t.put (f r) = t.update (fun a => if key a = k then f a else a) fun a => by
      split_ifs
      · exact hf a
      · rfl := by
  refine ext ?_
  simp only [put, update_rows]
  refine List.map_congr_left fun a ha => ?_
  rw [hf r, key_of_find? h]
  split_ifs with hkey
  · rw [eq_of_mem ha (mem_of_find? h) (hkey.trans (key_of_find? h).symm)]
  · rfl

/-- A set-based update is a keyed update for each of the rows it chooses. -/
theorem update_eq_updateEach (t : Table key) (chosen : α → Bool) (f : α → α)
    (hf : ∀ a, key (f a) = key a) :
    t.update (fun a => if chosen a = true then f a else a) (fun a => by
      split_ifs
      · exact hf a
      · rfl) = t.updateEach (t.rows.filter chosen) key (fun _ a => f a) fun _ => hf := by
  have hnames : ((t.rows.filter chosen).map key).Nodup :=
    t.nodup.sublist (List.filter_sublist.map key)
  refine ext ?_
  rw [updateEach_rows _ _ _ _ _ hnames, update_rows]
  refine List.map_congr_left fun a ha => ?_
  cases hfind : (t.rows.filter chosen).find? fun b => key b = key a with
  | none =>
      refine if_neg fun hchosen => find?_eq_none_iff_not_mem.mp hfind (List.mem_map_of_mem ?_)
      exact List.mem_filter.mpr ⟨ha, hchosen⟩
  | some b =>
      obtain ⟨hb, hkey⟩ := (find?_eq_some_iff_of_nodup hnames).mp hfind
      obtain ⟨hmem, hchosen⟩ := List.mem_filter.mp hb
      rw [eq_of_mem hmem ha hkey] at hchosen
      exact if_pos hchosen

end UpdateEach

section Views

variable {key' : β → κ} {t u : Table key} {a : α} {k : κ} (f : α → β)
  (hf : ∀ a, key' (f a) = key a)

/-- The table read through a view that keeps the keys. -/
def mapRows (t : Table key) (f : α → β) (hf : ∀ a, key' (f a) = key a) : Table key' :=
  ⟨t.rows.map f, by simpa [Function.comp_def, hf] using t.nodup⟩

theorem find?_mapRows : (t.mapRows f hf).find? k = (t.find? k).map f := by
  cases h : t.find? k with
  | none =>
      rw [find?_eq_none_iff] at h
      rw [Option.map_none, find?_eq_none_iff]
      simpa [mapRows, Function.comp_def, hf] using h
  | some r =>
      obtain ⟨hr, hk⟩ := find?_eq_some_iff.mp h
      rw [Option.map_some, find?_eq_some_iff]
      exact ⟨List.mem_map_of_mem hr, (hf r).trans hk⟩

theorem mapRows_put : (t.put a).mapRows f hf = (t.mapRows f hf).put (f a) := by
  refine ext ?_
  simp only [mapRows, put, update_rows, List.map_map]
  refine List.map_congr_left fun x _ => ?_
  simp only [Function.comp, hf]
  split_ifs
  · rfl
  · rfl

theorem mapRows_insert (h : t.insert a = some u) :
    (t.mapRows f hf).insert (f a) = some (u.mapRows f hf) := by
  obtain ⟨hrows, -⟩ := insert_eq_some h
  have hrows' : (u.mapRows f hf).rows = (t.mapRows f hf).rows ++ [f a] := by
    simp [mapRows, hrows]
  have hnodup : (((t.mapRows f hf).rows ++ [f a]).map key').Nodup :=
    hrows' ▸ (u.mapRows f hf).nodup
  unfold insert insertAll
  rw [dif_pos hnodup]
  exact congrArg some (ext hrows'.symm)

end Views

end Table

end Arthome.Library
