import Trackpal.Foundation.Table

/-!
# Batches of statements

A batch performs one statement for each element of a list, and stops at the first that fails.

Results:
1. `mapM_spec`: the results of a batch are those of its elements.
2. `get_foldl_modify_of_mem`, `get_foldl_modify_of_notMem`: what a batch of updates leaves under a
   key, if it has at most one for each key.
-/

namespace Trackpal.Foundation

section
variable {ε σ α β : Type} {x : Except ε α} {f : α → Except ε β} {b : β} {e : ε}

theorem bind_eq_ok : (x >>= f) = .ok b ↔ ∃ a, x = .ok a ∧ f a = .ok b := by
  cases x with
  | error e => exact iff_of_false nofun nofun
  | ok a => simp [bind, Except.bind]

theorem bind_eq_error : (x >>= f) = .error e ↔ x = .error e ∨ ∃ a, x = .ok a ∧ f a = .error e := by
  cases x with
  | error e' => simp [bind, Except.bind]
  | ok a => simp [bind, Except.bind]

theorem mapM_spec {l : List α} {results : List β} (h : l.mapM f = .ok results) :
    (∀ a ∈ l, ∃ b ∈ results, f a = .ok b) ∧ ∀ b ∈ results, ∃ a ∈ l, f a = .ok b := by
  induction l generalizing results with
  | nil =>
    obtain rfl := Except.ok.inj h
    exact ⟨fun a ha => (nomatch ha), fun b hb => nomatch hb⟩
  | cons first rest ih =>
    rw [List.mapM_cons] at h
    cases hfirst : f first with
    | error e =>
      rw [hfirst] at h
      nomatch h
    | ok b =>
    cases hrest : rest.mapM f with
    | error e =>
      rw [hfirst, hrest] at h
      nomatch h
    | ok others =>
      rw [hfirst, hrest] at h
      obtain rfl := Except.ok.inj h
      obtain ⟨hinto, hfrom⟩ := ih hrest
      refine ⟨List.forall_mem_cons.mpr ⟨⟨b, List.mem_cons_self, hfirst⟩, fun a ha => ?_⟩,
        List.forall_mem_cons.mpr ⟨⟨first, List.mem_cons_self, hfirst⟩, fun b hb => ?_⟩⟩
      · obtain ⟨b, hb, hvalid⟩ := hinto a ha
        exact ⟨b, List.mem_cons_of_mem _ hb, hvalid⟩
      · obtain ⟨a, ha, hvalid⟩ := hfrom b hb
        exact ⟨a, List.mem_cons_of_mem _ ha, hvalid⟩

variable {step : σ → α → Except ε σ} {s s' : σ} {as : List α}

/-- Where a batch fails, it has performed the statements before. -/
theorem foldlM_eq_error (h : as.foldlM step s = .error e) : ∃ done a rest s',
    as = done ++ a :: rest ∧ done.foldlM step s = .ok s' ∧ step s' a = .error e := by
  induction as generalizing s with
  | nil => cases h
  | cons a as ih =>
    rw [List.foldlM_cons] at h
    rcases bind_eq_error.mp h with hfirst | ⟨s₁, hfirst, hrest⟩
    · exact ⟨[], a, as, s, rfl, rfl, hfirst⟩
    · obtain ⟨done, a', rest, s', heq, hdone, hlast⟩ := ih hrest
      refine ⟨a :: done, a', rest, s', by rw [heq, List.cons_append], ?_, hlast⟩
      rw [List.foldlM_cons]
      exact bind_eq_ok.mpr ⟨s₁, hfirst, hdone⟩

end

section
variable {κ ρ α : Type*} [DecidableEq κ] {key : ρ → κ} {t : Table key} {as : List α} {a : α}
  {target : α → κ} {f : α → ρ → ρ} {hf : ∀ a row, key (f a row) = key row} {k : κ}

theorem get_foldl_modify_of_notMem (h : ∀ a ∈ as, target a ≠ k) :
    (as.foldl (fun t a => t.modify (target a) (f a) (hf a)) t).get k = t.get k := by
  induction as generalizing t with
  | nil => rfl
  | cons first rest ih =>
    rw [List.forall_mem_cons] at h
    rw [List.foldl_cons, ih h.2, Table.get_modify_of_ne (Ne.symm h.1)]

theorem get_foldl_modify_of_mem (hmem : a ∈ as) (hdistinct : as.Pairwise fun a b => target a ≠ target b) :
    (as.foldl (fun t a => t.modify (target a) (f a) (hf a)) t).get (target a) =
      (t.get (target a)).map (f a) := by
  induction as generalizing t with
  | nil => cases hmem
  | cons first rest ih =>
    obtain ⟨hfirst, hrest⟩ := List.pairwise_cons.mp hdistinct
    rw [List.foldl_cons]
    rcases List.mem_cons.mp hmem with rfl | hmem
    · rw [get_foldl_modify_of_notMem fun b hb => (hfirst b hb).symm, Table.get_modify_self]
    · rw [ih hmem hrest, Table.get_modify_of_ne (hfirst a hmem).symm]

end

end Trackpal.Foundation
