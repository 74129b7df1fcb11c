import Mathlib.Data.List.Nodup

/-!
# Inserts under a unique key, in one transaction

A transaction inserts rows into a table whose key is unique. An insert whose key is taken,
by a row of the table or by one inserted before it, breaks the transaction: whatever
follows leaves it as it is. A program inserts in loops that an exception can leave.

Results:
1. `fits_of_insertAll`: only rows with new and distinct keys leave the transaction whole.
2. `stop_foldlM`: a loop inserts what its turns insert, also where it ends in an exception.
-/

namespace Trackpal.Foundation

variable {κ ρ σ : Type*} [DecidableEq κ]

/-- The rows that a transaction has inserted, and whether it is broken. -/
structure Batch (ρ : Type*) where
  rows : List ρ
  broken : Bool

namespace Batch

/-- The transaction before its first insert. -/
def start : Batch ρ := ⟨[], false⟩

variable (key : ρ → κ) (taken : κ → Bool)

def insert (b : Batch ρ) (row : ρ) : Batch ρ :=
  if b.broken then b
  else if taken (key row) || decide (key row ∈ b.rows.map key) then { b with broken := true }
  else { b with rows := b.rows ++ [row] }

def insertAll (b : Batch ρ) (rows : List ρ) : Batch ρ := rows.foldl (insert key taken) b

/-- The keys of the rows are distinct, and none is taken. -/
def Fits (rows : List ρ) : Prop := (rows.map key).Nodup ∧ ∀ row ∈ rows, taken (key row) = false

instance (rows : List ρ) : Decidable (Fits key taken rows) :=
  inferInstanceAs (Decidable (_ ∧ _))

variable {key taken} {b : Batch ρ} {row : ρ} {rows : List ρ}

theorem insert_of_broken (h : b.broken = true) : b.insert key taken row = b := by
  rw [insert, if_pos h]

@[simp] theorem insertAll_nil : b.insertAll key taken [] = b := rfl

theorem insertAll_cons :
    b.insertAll key taken (row :: rows) = (b.insert key taken row).insertAll key taken rows := rfl

theorem insertAll_of_broken (h : b.broken = true) : b.insertAll key taken rows = b := by
  induction rows with
  | nil => rfl
  | cons row rows ih => rw [insertAll_cons, insert_of_broken h, ih]

theorem insertAll_append {rows' : List ρ} :
    b.insertAll key taken (rows ++ rows') = (b.insertAll key taken rows).insertAll key taken rows' :=
  List.foldl_append

theorem insertAll_eq (hb : b.broken = false) (hnew : ∀ row ∈ rows, taken (key row) = false)
    (hnodup : ((b.rows ++ rows).map key).Nodup) :
    b.insertAll key taken rows = ⟨b.rows ++ rows, false⟩ := by
  induction rows generalizing b with
  | nil =>
    rw [insertAll_nil, List.append_nil, ← hb]
  | cons row rows ih =>
    have hrow : key row ∉ b.rows.map key := by
      rw [List.map_append, List.map_cons] at hnodup
      intro hmem
      exact (List.nodup_append.mp hnodup).2.2 _ hmem _ List.mem_cons_self rfl
    have hinsert : b.insert key taken row = ⟨b.rows ++ [row], false⟩ := by
      simp [insert, hb, hnew row List.mem_cons_self, hrow]
    rw [insertAll_cons, hinsert, ih rfl]
    · rw [List.append_assoc, List.singleton_append]
    · exact fun other hother => hnew other (List.mem_cons_of_mem _ hother)
    · rwa [List.append_assoc, List.singleton_append]

theorem of_insert (h : (b.insert key taken row).broken = false) :
    b.broken = false ∧ taken (key row) = false ∧ key row ∉ b.rows.map key ∧
      (b.insert key taken row).rows = b.rows ++ [row] := by
  unfold insert at h ⊢
  split at h
  · next hbroken => rw [hbroken] at h; cases h
  · next hbroken =>
    split at h
    · cases h
    · next hfresh =>
      rw [Bool.or_eq_true, decide_eq_true_eq, not_or] at hfresh
      rw [if_neg hbroken, if_neg (by simpa using hfresh)]
      exact ⟨by simpa using hbroken, by simpa using hfresh.1, hfresh.2, rfl⟩

theorem of_insertAll (h : (b.insertAll key taken rows).broken = false)
    (hnodup : (b.rows.map key).Nodup) :
    (b.insertAll key taken rows).rows = b.rows ++ rows ∧
      ((b.rows ++ rows).map key).Nodup ∧ ∀ row ∈ rows, taken (key row) = false := by
  induction rows generalizing b with
  | nil => simpa using hnodup
  | cons row rows ih =>
    rw [insertAll_cons] at h ⊢
    have hfirst : (b.insert key taken row).broken = false := by
      cases hbroken : (b.insert key taken row).broken with
      | false => rfl
      | true =>
        rw [insertAll_of_broken hbroken, hbroken] at h
        cases h
    obtain ⟨-, htaken, hrow, hrows⟩ := of_insert hfirst
    have hdistinct : (((b.insert key taken row).rows).map key).Nodup := by
      rw [hrows, List.map_append, List.map_singleton]
      exact List.nodup_append.mpr ⟨hnodup, List.nodup_singleton _, by
        intro a ha c hc
        rw [List.mem_singleton.mp hc]
        exact fun heq => hrow (heq ▸ ha)⟩
    obtain ⟨hall, hnodups, hnews⟩ := ih h hdistinct
    rw [hrows, List.append_assoc, List.singleton_append] at hall hnodups
    exact ⟨hall, hnodups, List.forall_mem_cons.mpr ⟨htaken, hnews⟩⟩

/-- Rows with new and distinct keys are all inserted. -/
theorem insertAll_of_fits (h : Fits key taken rows) :
    start.insertAll key taken rows = ⟨rows, false⟩ :=
  insertAll_eq rfl h.2 h.1

theorem fits_of_insertAll (h : (start.insertAll key taken rows).broken = false) :
    Fits key taken rows :=
  (of_insertAll h List.nodup_nil).2

/-! ## Loops that an exception can leave -/

/-- Where a computation ends, with or without an exception. -/
def stop : Except σ σ → σ
  | .ok b => b
  | .error b => b

theorem error_of_foldlM {α : Type*} {f : σ → α → Except σ σ} {xs : List α} {b b' : σ}
    (h : xs.foldlM f b = .error b') : ∃ x ∈ xs, ∃ c, f c x = .error b' := by
  induction xs generalizing b with
  | nil => cases h
  | cons x xs ih =>
    rw [List.foldlM_cons] at h
    cases hx : f b x with
    | error c =>
      rw [hx] at h
      cases h
      exact ⟨x, List.mem_cons_self, b, hx⟩
    | ok c =>
      rw [hx] at h
      obtain ⟨y, hy, hf⟩ := ih h
      exact ⟨y, List.mem_cons_of_mem _ hy, hf⟩

theorem stop_foldlM {α : Type*} {f : Batch ρ → α → Except (Batch ρ) (Batch ρ)}
    {inserts : α → List ρ} {xs : List α}
    (hstop : ∀ x ∈ xs, ∀ b, stop (f b x) = b.insertAll key taken (inserts x))
    (herror : ∀ x ∈ xs, ∀ b b', f b x = .error b' → b'.broken = true ∨ ∀ y ∈ xs, inserts y = []) :
    stop (xs.foldlM f b) = b.insertAll key taken (xs.flatMap inserts) := by
  induction xs generalizing b with
  | nil => rfl
  | cons x xs ih =>
    have hx := hstop x List.mem_cons_self b
    rw [List.foldlM_cons, List.flatMap_cons, insertAll_append, ← hx]
    cases hf : f b x with
    | ok b' =>
      exact ih (fun y hy => hstop y (List.mem_cons_of_mem _ hy)) fun y hy c c' hc =>
        (herror y (List.mem_cons_of_mem _ hy) c c' hc).imp_right
          fun hnone z hz => hnone z (List.mem_cons_of_mem _ hz)
    | error b' =>
      show b' = b'.insertAll key taken (xs.flatMap inserts)
      cases herror x List.mem_cons_self b b' hf with
      | inl hbroken => rw [insertAll_of_broken hbroken]
      | inr hnone =>
        have hrest : xs.flatMap inserts = [] :=
          List.flatMap_eq_nil_iff.mpr fun y hy => hnone y (List.mem_cons_of_mem _ hy)
        rw [hrest, insertAll_nil]

/-! ## Where a loop is left -/

variable (key taken) in
def BreaksEarly (b : Batch ρ) (rows : List ρ) : Prop :=
  ∃ before after, rows = before ++ after ∧ after ≠ [] ∧ (b.insertAll key taken before).broken = true

theorem not_breaksEarly_nil : ¬BreaksEarly key taken b [] := by
  rintro ⟨before, after, hrows, hafter, -⟩
  exact hafter (List.append_eq_nil_iff.mp hrows.symm).2

theorem breaksEarly_of_broken (h : b.broken = true) (hrows : rows ≠ []) :
    BreaksEarly key taken b rows :=
  ⟨[], rows, rfl, hrows, h⟩

theorem breaksEarly_singleton : BreaksEarly key taken b [row] ↔ b.broken = true := by
  constructor
  · rintro ⟨before, after, hrows, hafter, hbroken⟩
    rcases List.append_eq_singleton_iff.mp hrows.symm with ⟨rfl, -⟩ | ⟨-, rfl⟩
    · exact hbroken
    · exact absurd rfl hafter
  · intro h
    exact breaksEarly_of_broken h (List.cons_ne_nil _ _)

theorem breaksEarly_append {rows' : List ρ} : BreaksEarly key taken b (rows ++ rows') ↔
    BreaksEarly key taken b rows ∨ BreaksEarly key taken (b.insertAll key taken rows) rows' := by
  constructor
  · rintro ⟨before, after, hrows, hafter, hbroken⟩
    rcases List.append_eq_append_iff.mp hrows with ⟨rest, rfl, rfl⟩ | ⟨rest, rfl, rfl⟩
    · exact Or.inr ⟨rest, after, rfl, hafter, by rwa [← insertAll_append]⟩
    · by_cases hrest : rest = []
      · subst hrest
        rw [List.append_nil]
        exact Or.inr (breaksEarly_of_broken hbroken hafter)
      · exact Or.inl ⟨before, rest, rfl, hrest, hbroken⟩
  · rintro (⟨before, after, rfl, hafter, hbroken⟩ | ⟨before, after, rfl, hafter, hbroken⟩)
    · exact ⟨before, after ++ rows', List.append_assoc _ _ _,
        fun h => hafter (List.append_eq_nil_iff.mp h).1, hbroken⟩
    · exact ⟨rows ++ before, after, (List.append_assoc _ _ _).symm, hafter, by
        rwa [insertAll_append]⟩

theorem error_foldlM {α : Type*} {f : Batch ρ → α → Except (Batch ρ) (Batch ρ)}
    {inserts : α → List ρ} {xs : List α}
    (hstop : ∀ x ∈ xs, ∀ b, stop (f b x) = b.insertAll key taken (inserts x))
    (herror : ∀ x ∈ xs, ∀ b, (∃ b', f b x = .error b') ↔ BreaksEarly key taken b (inserts x)) :
    (∃ b', xs.foldlM f b = .error b') ↔ BreaksEarly key taken b (xs.flatMap inserts) := by
  induction xs generalizing b with
  | nil => exact iff_of_false (by rintro ⟨b', h⟩; cases h) not_breaksEarly_nil
  | cons x xs ih =>
    have hx := hstop x List.mem_cons_self b
    have hxerror := herror x List.mem_cons_self b
    have hrest := ih (b := b.insertAll key taken (inserts x))
      (fun y hy => hstop y (List.mem_cons_of_mem _ hy))
      (fun y hy => herror y (List.mem_cons_of_mem _ hy))
    rw [List.flatMap_cons, breaksEarly_append, ← hrest, ← hxerror, List.foldlM_cons]
    cases hf : f b x with
    | error b' => exact iff_of_true ⟨b', rfl⟩ (Or.inl ⟨b', rfl⟩)
    | ok b' =>
      rw [hf] at hx
      rw [← hx]
      refine ⟨Or.inr, ?_⟩
      rintro (⟨b₁, hb₁⟩ | h)
      · cases hb₁
      · exact h

theorem prefix_insertAll : b.rows <+: (b.insertAll key taken rows).rows := by
  induction rows generalizing b with
  | nil => exact List.prefix_rfl
  | cons row rows ih =>
    refine List.IsPrefix.trans ?_ ih
    unfold insert
    split
    · exact List.prefix_rfl
    · split
      · exact List.prefix_rfl
      · exact List.prefix_append _ _

end Batch

end Trackpal.Foundation
