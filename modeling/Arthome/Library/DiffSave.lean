import Arthome.Library.Table
import Mathlib.Data.List.Perm.Basic

/-!
# Saving a collection by its difference

An owner's items are stored as rows of a shared table. Saving them again writes
only the difference: items without a stored row are inserted, items whose row
would read differently are updated in the columns they may move, and every other
row is left. `diffSave_reads` says when this loses nothing: each item either is
new or continues a stored one, differing from it in movable columns only, and no
stored item was dropped.
-/

namespace Arthome.Library

open scoped List

section

variable {α β κ : Type} [DecidableEq κ] {key : α → κ}

/-- The items under names not stored yet. -/
def addedTo (stored current : List β) (name : β → κ) : List β :=
  current.filter fun c => name c ∉ stored.map name

/-- The items stored under their name already, and that `moved` finds different. -/
def movedFrom (stored current : List β) (name : β → κ) (moved : β → β → Bool) : List β :=
  current.filter fun c =>
    match stored.find? fun b => name b = name c with
    | none => false
    | some before => moved before c

variable {stored current : List β} {name : β → κ} {row : β → α} {read : α → β}
  {write : β → α → α} {moved : β → β → Bool}

theorem mem_addedTo {c : β} :
    c ∈ addedTo stored current name ↔ c ∈ current ∧ name c ∉ stored.map name := by
  simp [addedTo]

theorem mem_movedFrom (hnames : (stored.map name).Nodup) {c : β} :
    c ∈ movedFrom stored current name moved ↔
      c ∈ current ∧ ∃ b ∈ stored, name b = name c ∧ moved b c = true := by
  rw [movedFrom, List.mem_filter]
  refine and_congr_right fun _ => ?_
  cases hfind : stored.find? fun b => name b = name c with
  | none =>
      have hnot := find?_eq_none_iff_not_mem.mp hfind
      simp only [Bool.false_eq_true, false_iff]
      rintro ⟨b, hb, hname, -⟩
      exact hnot (List.mem_map.mpr ⟨b, hb, hname⟩)
  | some before =>
      obtain ⟨hmem, hname⟩ := (find?_eq_some_iff_of_nodup hnames).mp hfind
      constructor
      · exact fun hmoved => ⟨before, hmem, hname, hmoved⟩
      · rintro ⟨b, hb, hbname, hmoved⟩
        rw [List.inj_on_of_nodup_map hnames hb hmem (hbname.trans hname.symm)] at hmoved
        exact hmoved

/-- A name nothing moved under is not written. -/
theorem not_mem_movedFrom (hnames : (stored.map name).Nodup) {k : κ}
    (hstay : ∀ b ∈ stored, ∀ c ∈ current, name b = k → name c = k → moved b c = false) :
    k ∉ (movedFrom stored current name moved).map name := by
  intro hmem
  obtain ⟨c, hc, hname⟩ := List.mem_map.mp hmem
  obtain ⟨hcurrent, b, hb, hbname, hmoved⟩ := (mem_movedFrom hnames).mp hc
  rw [hstay b hb c hcurrent (hbname.trans hname) hname] at hmoved
  cases hmoved

/-- Every item of `current` is new, or continues the stored item of its name. -/
structure Continuing (stored current : List β) (name : β → κ) (read : α → β)
    (write : β → α → α) (moved : β → β → Bool) : Prop where
  storedNames : (stored.map name).Nodup
  kept : ∀ b ∈ stored, name b ∈ current.map name
  moves : ∀ a, read a ∈ stored → ∀ c ∈ current, name c = name (read a) → read (write c a) = c
  stays : ∀ b ∈ stored, ∀ c ∈ current, name c = name b → moved b c = false → b = c

/-- The current item of a stored item's name. -/
def continuation (current : List β) (name : β → κ) (b : β) : β :=
  (current.find? fun c => name c = name b).getD b

theorem Continuing.continuation_mem (h : Continuing stored current name read write moved) {b : β}
    (hb : b ∈ stored) :
    continuation current name b ∈ current ∧ name (continuation current name b) = name b := by
  unfold continuation
  cases hfind : current.find? fun c => name c = name b with
  | none => exact absurd (h.kept b hb) (find?_eq_none_iff_not_mem.mp hfind)
  | some c => exact ⟨List.mem_of_find?_eq_some hfind, by simpa using List.find?_some hfind⟩

/-- The stored items as they continue, with the items added, are the current ones. -/
theorem Continuing.continued_perm (h : Continuing stored current name read write moved)
    (hnames : (current.map name).Nodup) :
    (stored.map (continuation current name) ++ addedTo stored current name).Perm current := by
  have hsame : (stored.map (continuation current name)).map name = stored.map name := by
    rw [List.map_map]
    exact List.map_congr_left fun b hb => (h.continuation_mem hb).2
  have hcontinued : (stored.map (continuation current name)).Nodup :=
    List.Nodup.of_map name (hsame ▸ h.storedNames)
  have hperm : (stored.map (continuation current name)).Perm
      (current.filter fun c => name c ∈ stored.map name) := by
    refine (List.perm_ext_iff_of_nodup hcontinued
      ((List.Nodup.of_map name hnames).filter _)).mpr fun c => ?_
    rw [List.mem_map, List.mem_filter, decide_eq_true_eq]
    constructor
    · rintro ⟨b, hb, rfl⟩
      obtain ⟨hmem, hname⟩ := h.continuation_mem hb
      exact ⟨hmem, List.mem_map.mpr ⟨b, hb, hname.symm⟩⟩
    · rintro ⟨hc, hname⟩
      obtain ⟨b, hb, hbc⟩ := List.mem_map.mp hname
      obtain ⟨hmem, hcont⟩ := h.continuation_mem hb
      exact ⟨b, hb, List.inj_on_of_nodup_map hnames hmem hc (hcont.trans hbc)⟩
  have hsplit := List.filter_append_perm (fun c => decide (name c ∈ stored.map name)) current
  simp only [← decide_not] at hsplit
  exact (hperm.append_right _).trans hsplit

/-- The row a save leaves under a key. -/
def rewritten (key : α → κ) (items : List β) (name : β → κ) (write : β → α → α) (a : α) : α :=
  match items.find? fun b => name b = key a with
  | none => a
  | some b => write b a

/-- A stored row reads, after the save, as the item that continues it. -/
theorem Continuing.read_rewritten (h : Continuing stored current name read write moved)
    (hnames : (current.map name).Nodup) (hkey : ∀ a, key a = name (read a)) {a : α}
    (ha : read a ∈ stored) :
    read (rewritten key (movedFrom stored current name moved) name write a) =
      continuation current name (read a) := by
  obtain ⟨hmem, hname⟩ := h.continuation_mem ha
  have hbefore : ∀ c, name c = name (read a) →
      stored.find? (fun b => name b = name c) = some (read a) :=
    fun c hc => (find?_eq_some_iff_of_nodup h.storedNames).mpr ⟨ha, hc.symm⟩
  unfold rewritten
  rw [hkey]
  cases hfind : (movedFrom stored current name moved).find? fun c => name c = name (read a) with
  | none =>
      refine h.stays _ ha _ hmem hname ?_
      rw [← Bool.not_eq_true]
      intro hmoved
      have hnot := List.find?_eq_none.mp hfind (continuation current name (read a))
        (List.mem_filter.mpr ⟨hmem, by rw [hbefore _ hname]; exact hmoved⟩)
      exact hnot (by simpa using hname)
  | some c =>
      have hc : name c = name (read a) := by simpa using List.find?_some hfind
      have hcmem : c ∈ current := (List.mem_filter.mp (List.mem_of_find?_eq_some hfind)).1
      have hsame : c = continuation current name (read a) :=
        List.inj_on_of_nodup_map hnames hcmem hmem (hc.trans hname.symm)
      rw [← hsame]
      exact h.moves a ha c hcmem hc

/-- A row just inserted is not updated by the same save. -/
theorem rewritten_added {c : β} (hkey : key (row c) = name c)
    (hc : c ∈ addedTo stored current name) :
    rewritten key (movedFrom stored current name moved) name write (row c) = row c := by
  unfold rewritten
  rw [hkey]
  cases hfind : (movedFrom stored current name moved).find? fun d => name d = name c with
  | none => rfl
  | some d =>
      have hd : name d = name c := by simpa using List.find?_some hfind
      have hmoved := (List.mem_filter.mp (List.mem_of_find?_eq_some hfind)).2
      split at hmoved
      · cases hmoved
      · rename_i before hbefore
        have hname : name before = name d := by simpa using List.find?_some hbefore
        exact absurd (List.mem_map.mpr
          ⟨before, List.mem_of_find?_eq_some hbefore, hname.trans hd⟩) (mem_addedTo.mp hc).2

/-- What the owner's rows read as, after a save by difference: the items saved. -/
theorem Continuing.diffSave_reads {t u : Table key}
    (h : Continuing stored current name read write moved) (own : α → Bool)
    (hstored : ((t.rows.filter own).map read).Perm stored)
    (hinsert : u.rows = t.rows ++ (addedTo stored current name).map row)
    (hnames : (current.map name).Nodup)
    (hkey : ∀ a, key a = name (read a)) (hread : ∀ c ∈ current, read (row c) = c)
    (hown : ∀ c, own (row c) = true) (hwrite : ∀ b a, key (write b a) = key a)
    (hownWrite : ∀ b a, own (write b a) = own a) :
    (((u.updateEach (movedFrom stored current name moved) name write hwrite).rows.filter
      own).map read).Perm current := by
  have hmovedNames : ((movedFrom stored current name moved).map name).Nodup :=
    hnames.sublist (List.Sublist.map _ List.filter_sublist)
  set upd := rewritten key (movedFrom stored current name moved) name write with hupd
  have hownUpd : ∀ a, own (upd a) = own a := by
    intro a
    simp only [hupd, rewritten]
    split
    · rfl
    · exact hownWrite _ _
  have hrows : (u.updateEach (movedFrom stored current name moved) name write hwrite).rows =
      u.rows.map upd := Table.updateEach_rows _ _ _ _ _ hmovedNames
  have hadded : ((addedTo stored current name).map row).filter own =
      (addedTo stored current name).map row :=
    List.filter_eq_self.mpr fun a ha => by
      obtain ⟨c, -, rfl⟩ := List.mem_map.mp ha
      exact hown c
  have hreadStored : ((t.rows.filter own).map upd).map read =
      ((t.rows.filter own).map read).map (continuation current name) := by
    rw [List.map_map, List.map_map]
    refine List.map_congr_left fun a ha => h.read_rewritten hnames hkey ?_
    exact hstored.subset (List.mem_map_of_mem ha)
  have hreadAdded : (((addedTo stored current name).map row).map upd).map read =
      addedTo stored current name := by
    rw [List.map_map, List.map_map]
    refine (List.map_congr_left fun c hc => ?_).trans (List.map_id _)
    have hmem := (mem_addedTo.mp hc).1
    have hname : key (row c) = name c := by rw [hkey, hread c hmem]
    exact (congrArg read (rewritten_added hname hc)).trans (hread c hmem)
  rw [hrows, List.filter_map, show own ∘ upd = own from funext hownUpd, hinsert,
    List.filter_append, hadded, List.map_append, List.map_append, hreadStored, hreadAdded]
  exact ((hstored.map _).append_right _).trans (h.continued_perm hnames)

/-- A row no moved item names is left as it was. -/
theorem mem_diffSave_of_untouched {t u : Table key} (hwrite : ∀ b a, key (write b a) = key a)
    (hnames : (current.map name).Nodup) {new : List α} (hinsert : u.rows = t.rows ++ new) {a : α}
    (ha : a ∈ t.rows) (hmoved : key a ∉ (movedFrom stored current name moved).map name) :
    a ∈ (u.updateEach (movedFrom stored current name moved) name write hwrite).rows := by
  have hmovedNames : ((movedFrom stored current name moved).map name).Nodup :=
    hnames.sublist (List.Sublist.map _ List.filter_sublist)
  rw [Table.updateEach_rows _ _ _ _ _ hmovedNames, List.mem_map]
  refine ⟨a, ?_, ?_⟩
  · rw [hinsert]
    exact List.mem_append_left _ ha
  · rw [find?_eq_none_iff_not_mem.mpr hmoved]

end

end Arthome.Library
