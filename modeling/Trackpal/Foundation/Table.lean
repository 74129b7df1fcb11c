import Mathlib.Data.List.Nodup

/-!
# Tables with a primary key

A table is a list of rows, no two of which have the same key. Its statements are the
ones of a database session: look a row up, change the row of a key, insert a row with
a new key, and delete the rows that pass a test. A query with `ORDER BY` and `LIMIT 1`
picks one row of those that pass a test.

Results:
1. `select_eq_singleton`: a query that finds one row.
2. `mem_of_pick`, `pick_eq_none`: which row a query picks.
-/

namespace Trackpal.Foundation

structure Table {κ ρ : Type*} (key : ρ → κ) where
  rows : List ρ
  nodup : (rows.map key).Nodup

/-- The row that no later row beats. -/
def pick {ρ : Type*} (beats : ρ → ρ → Bool) : List ρ → Option ρ
  | [] => none
  | row :: rest =>
    match pick beats rest with
    | none => some row
    | some best => if beats best row then some best else some row

namespace Table

variable {κ ρ : Type*} {key : ρ → κ}

/-- The table without rows. -/
def empty : Table key := ⟨[], List.nodup_nil⟩

/-- `SELECT … WHERE`. -/
def select (t : Table key) (p : ρ → Bool) : List ρ := t.rows.filter p

/-- `DELETE … WHERE`. -/
def remove (t : Table key) (p : ρ → Bool) : Table key where
  rows := t.rows.filter fun row => !p row
  nodup := t.nodup.sublist (List.filter_sublist.map key)

variable [DecidableEq κ]

/-- `SELECT` by primary key. -/
def get (t : Table key) (k : κ) : Option ρ := t.rows.find? fun row => key row = k

/-- `UPDATE … WHERE` the primary key. -/
def modify (t : Table key) (k : κ) (f : ρ → ρ) (hf : ∀ row, key (f row) = key row) :
    Table key where
  rows := t.rows.map fun row => if key row = k then f row else row
  nodup := by
    have hkeys : (t.rows.map fun row => if key row = k then f row else row).map key =
        t.rows.map key := by
      rw [List.map_map]
      refine List.map_congr_left fun row _ => ?_
      show key (if key row = k then f row else row) = key row
      split
      · exact hf row
      · rfl
    rw [hkeys]
    exact t.nodup

/-- `INSERT`, which leaves a table that has the key. -/
def insert (t : Table key) (row : ρ) : Table key :=
  if h : key row ∈ t.rows.map key then t
  else ⟨row :: t.rows, List.nodup_cons.mpr ⟨h, t.nodup⟩⟩

variable {t : Table key} {k k' : κ} {row row' : ρ} {p : ρ → Bool}

/-- A lookup finds the row with the key. -/
theorem get_eq_some : t.get k = some row ↔ row ∈ t.rows ∧ key row = k := by
  constructor
  · intro h
    exact ⟨List.mem_of_find?_eq_some h, by simpa using List.find?_some h⟩
  · rintro ⟨hmem, rfl⟩
    unfold get
    cases hfind : t.rows.find? fun other => decide (key other = key row) with
    | none =>
      have hnone := List.find?_eq_none.mp hfind row hmem
      exact absurd (decide_eq_true rfl) hnone
    | some other =>
      have hother : key other = key row := by simpa using List.find?_some hfind
      rw [List.inj_on_of_nodup_map t.nodup (List.mem_of_find?_eq_some hfind) hmem hother]

theorem key_of_get (h : t.get k = some row) : key row = k := (get_eq_some.mp h).2

theorem get_of_mem (h : row ∈ t.rows) : t.get (key row) = some row := get_eq_some.mpr ⟨h, rfl⟩

theorem get_of_mem_select (h : row ∈ t.select p) : t.get (key row) = some row ∧ p row = true :=
  ⟨get_of_mem (List.mem_filter.mp h).1, (List.mem_filter.mp h).2⟩

@[simp] theorem get_empty : (empty : Table key).get k = none := rfl

theorem get_eq_none : t.get k = none ↔ ∀ row ∈ t.rows, key row ≠ k := by
  simp [get, List.find?_eq_none]

theorem get_modify_self {f : ρ → ρ} {hf : ∀ row, key (f row) = key row} :
    (t.modify k f hf).get k = (t.get k).map f := by
  cases hget : t.get k with
  | none =>
    refine get_eq_none.mpr fun row hrow heq => ?_
    obtain ⟨old, hold, rfl⟩ := List.mem_map.mp hrow
    have hne := get_eq_none.mp hget old hold
    rw [if_neg hne] at heq
    exact hne heq
  | some row =>
    obtain ⟨hmem, hkey⟩ := get_eq_some.mp hget
    refine get_eq_some.mpr ⟨List.mem_map.mpr ⟨row, hmem, if_pos hkey⟩, ?_⟩
    rw [hf, hkey]

theorem get_modify_of_ne {f : ρ → ρ} {hf : ∀ row, key (f row) = key row} (h : k' ≠ k) :
    (t.modify k f hf).get k' = t.get k' := by
  cases hget : t.get k' with
  | none =>
    refine get_eq_none.mpr fun row hrow heq => ?_
    obtain ⟨old, hold, rfl⟩ := List.mem_map.mp hrow
    have hne := get_eq_none.mp hget old hold
    split at heq
    · exact hne ((hf old).symm.trans heq)
    · exact hne heq
  | some row =>
    obtain ⟨hmem, hkey⟩ := get_eq_some.mp hget
    have hother : ¬key row = k := hkey ▸ h
    exact get_eq_some.mpr ⟨List.mem_map.mpr ⟨row, hmem, if_neg hother⟩, hkey⟩

theorem get_modify_of_get {f : ρ → ρ} (hf : ∀ row, key (f row) = key row) (h : t.get k = some row) :
    (t.modify k' f hf).get k = some (if key row = k' then f row else row) := by
  have hkey := key_of_get h
  by_cases heq : k = k'
  · rw [← heq, get_modify_self, h, if_pos hkey]
    rfl
  · rw [get_modify_of_ne heq, h, if_neg (hkey ▸ heq)]

theorem get_insert_self (h : t.get (key row) = none) : (t.insert row).get (key row) = some row := by
  have hfresh : key row ∉ t.rows.map key := by
    intro hmem
    obtain ⟨other, hother, heq⟩ := List.mem_map.mp hmem
    exact get_eq_none.mp h other hother heq
  rw [insert, dif_neg hfresh]
  exact get_of_mem List.mem_cons_self

theorem mem_insert (h : row' ∈ (t.insert row).rows) : row' = row ∨ row' ∈ t.rows := by
  unfold insert at h
  split at h
  · exact Or.inr h
  · exact List.mem_cons.mp h

theorem get_insert_of_get (h : t.get k = some row') : (t.insert row).get k = some row' := by
  unfold insert
  split
  · exact h
  · obtain ⟨hmem, hkey⟩ := get_eq_some.mp h
    exact get_eq_some.mpr ⟨List.mem_cons_of_mem _ hmem, hkey⟩

theorem get_insert_of_ne (h : k ≠ key row) : (t.insert row).get k = t.get k := by
  unfold insert
  split
  · rfl
  · simp [get, Ne.symm h]

theorem get_remove : (t.remove p).get k = (t.get k).filter fun row => !p row := by
  cases hget : t.get k with
  | none =>
    refine get_eq_none.mpr fun row hrow => ?_
    exact get_eq_none.mp hget row (List.mem_of_mem_filter hrow)
  | some row =>
    obtain ⟨hmem, hkey⟩ := get_eq_some.mp hget
    cases hp : p row with
    | true =>
      rw [Option.filter_some, hp]
      refine get_eq_none.mpr fun other hother heq => ?_
      obtain ⟨hother, hkept⟩ := List.mem_filter.mp hother
      rw [List.inj_on_of_nodup_map t.nodup hother hmem (heq.trans hkey.symm), hp] at hkept
      cases hkept
    | false =>
      rw [Option.filter_some, hp]
      exact get_eq_some.mpr ⟨List.mem_filter.mpr ⟨hmem, by rw [hp]; rfl⟩, hkey⟩

omit [DecidableEq κ] in
theorem select_eq_singleton : t.select p = [row] ↔
    row ∈ t.rows ∧ p row = true ∧ ∀ row' ∈ t.rows, p row' = true → row' = row := by
  constructor
  · intro h
    have hrow : row ∈ t.rows.filter p := by
      rw [show t.rows.filter p = [row] from h]
      exact List.mem_singleton_self row
    obtain ⟨hmem, hp⟩ := List.mem_filter.mp hrow
    refine ⟨hmem, hp, fun row' hmem' hp' => ?_⟩
    have hin : row' ∈ t.rows.filter p := List.mem_filter.mpr ⟨hmem', hp'⟩
    rw [show t.rows.filter p = [row] from h] at hin
    exact List.mem_singleton.mp hin
  · rintro ⟨hmem, hp, honly⟩
    have hnodup : (t.rows.filter p).Nodup := (List.Nodup.of_map key t.nodup).filter p
    have hall : ∀ row' ∈ t.rows.filter p, row' = row := fun row' hrow' =>
      honly row' (List.mem_filter.mp hrow').1 (List.mem_filter.mp hrow').2
    show t.rows.filter p = [row]
    match hrows : t.rows.filter p with
    | [] =>
      have hin : row ∈ t.rows.filter p := List.mem_filter.mpr ⟨hmem, hp⟩
      rw [hrows] at hin
      cases hin
    | [a] => rw [hall a (by rw [hrows]; exact List.mem_singleton_self a)]
    | a :: b :: rest =>
      rw [hrows] at hall hnodup
      have heq : a = b := (hall a (by simp)).trans (hall b (by simp)).symm
      rw [heq] at hnodup
      simp at hnodup

omit [DecidableEq κ] in
theorem select_eq_nil : t.select p = [] ↔ ∀ row ∈ t.rows, p row = false := by
  unfold select
  simp [List.filter_eq_nil_iff]

end Table

variable {ρ : Type*} {beats : ρ → ρ → Bool} {rows : List ρ} {row : ρ}

theorem mem_of_pick (h : pick beats rows = some row) : row ∈ rows := by
  induction rows generalizing row with
  | nil => cases h
  | cons first rest ih =>
    rw [pick] at h
    split at h
    · cases h
      exact List.mem_cons_self
    · next best hbest =>
      split at h
      · cases h
        exact List.mem_cons_of_mem _ (ih hbest)
      · cases h
        exact List.mem_cons_self

theorem pick_eq_none : pick beats rows = none ↔ rows = [] := by
  cases rows with
  | nil => exact iff_of_true rfl rfl
  | cons first rest =>
    refine iff_of_false ?_ (List.cons_ne_nil _ _)
    rw [pick]
    split
    · exact Option.some_ne_none _
    · split <;> exact Option.some_ne_none _

end Trackpal.Foundation
