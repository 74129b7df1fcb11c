import Mathlib.Data.List.Sort

/-!
# Keyset pagination

A query sorts its rows by a key that tells them apart, and takes so many from the start.
The next page asks for the rows after the last one of the page before it.

Results:
1. `filter_after`: asking for the rows after a row leaves those behind it in the sorted list.
2. `mem_take_iff`: a row is on the first page if fewer rows come before it than the page has.
-/

namespace Trackpal.Foundation.Keyset

variable {ρ : Type*} (r : ρ → ρ → Prop) [DecidableRel r]

def Apart (rows : List ρ) : Prop := ∀ a b, a ∈ rows → b ∈ rows → r a b → r b a → a = b

variable {r} {rows : List ρ} {a b : ρ}

section

variable [Std.Total r] [IsTrans ρ r]

theorem insertionSort_filter (h : Apart r rows) (p : ρ → Bool) :
    (rows.filter p).insertionSort r = (rows.insertionSort r).filter p := by
  refine List.Perm.eq_of_pairwise (fun a b ha hb => ?_) (List.pairwise_insertionSort r _)
    ((List.pairwise_insertionSort r rows).filter p) ?_
  · have ha' := (List.mem_insertionSort r).mp ha
    have hb' := (List.mem_insertionSort r).mp (List.mem_of_mem_filter hb)
    exact h a b (List.mem_of_mem_filter ha') hb'
  · exact (List.perm_insertionSort r _).trans ((List.perm_insertionSort r rows).filter p).symm

end

theorem filter_after [Std.Total r] {before after : List ρ}
    (hsorted : (before ++ a :: after).Pairwise r) (hapart : Apart r (before ++ a :: after))
    (hnodup : (before ++ a :: after).Nodup) :
    (before ++ a :: after).filter (fun b => !decide (r b a)) = after := by
  obtain ⟨-, hcons, hbefore⟩ := List.pairwise_append.mp hsorted
  have hafter := (List.pairwise_cons.mp hcons).1
  have hself : r a a := (Std.Total.total a a).elim id id
  have hdropped : before.filter (fun b => !decide (r b a)) = [] :=
    List.filter_eq_nil_iff.mpr fun b hb => by simp [hbefore b hb a List.mem_cons_self]
  have hkept : after.filter (fun b => !decide (r b a)) = after := by
    refine List.filter_eq_self.mpr fun b hb => ?_
    have hnot : ¬r b a := by
      intro hba
      have heq := hapart a b (by simp) (by simp [hb]) (hafter b hb) hba
      have hne := (List.nodup_cons.mp (List.nodup_append.mp hnodup).2.1).1
      exact hne (heq ▸ hb)
    simp [hnot]
  rw [List.filter_append, hdropped, List.filter_cons_of_neg (by simp [hself]), hkept,
    List.nil_append]

theorem mem_take_iff [DecidableEq ρ] {n : Nat} (hsorted : rows.Pairwise r) (hapart : Apart r rows)
    (hnodup : rows.Nodup) (hmem : a ∈ rows) :
    a ∈ rows.take n ↔ rows.countP (fun b => decide (r b a) && decide (b ≠ a)) < n := by
  obtain ⟨before, after, rfl⟩ := List.append_of_mem hmem
  obtain ⟨-, hcons, hbefore⟩ := List.pairwise_append.mp hsorted
  obtain ⟨-, htail, hdisjoint⟩ := List.nodup_append.mp hnodup
  have hafter := (List.pairwise_cons.mp hcons).1
  have hne : ∀ b ∈ before, b ≠ a := fun b hb => hdisjoint b hb a List.mem_cons_self
  have hfirst : before.countP (fun b => decide (r b a) && decide (b ≠ a)) = before.length := by
    refine List.countP_eq_length.mpr fun b hb => ?_
    simp [hbefore b hb a List.mem_cons_self, hne b hb]
  have hlast : (a :: after).countP (fun b => decide (r b a) && decide (b ≠ a)) = 0 := by
    refine List.countP_eq_zero.mpr fun b hb hcounted => ?_
    simp only [Bool.and_eq_true, decide_eq_true_eq] at hcounted
    have hmem' : b ∈ before ++ a :: after := List.mem_append_right _ hb
    have hab : r a b := (List.mem_cons.mp hb).elim (fun h => absurd h hcounted.2) (hafter b)
    exact hcounted.2 (hapart b a hmem' hmem hcounted.1 hab)
  rw [List.countP_append, hfirst, hlast, Nat.add_zero, List.take_append]
  constructor
  · intro h
    rcases List.mem_append.mp h with h | h
    · exact absurd rfl (hne a (List.mem_of_mem_take h))
    · by_contra hle
      rw [Nat.sub_eq_zero_of_le (Nat.le_of_not_lt hle)] at h
      cases h
  · intro h
    obtain ⟨k, hk⟩ := Nat.exists_eq_add_of_lt h
    rw [show n - before.length = k + 1 by omega]
    exact List.mem_append_right _ List.mem_cons_self

end Trackpal.Foundation.Keyset
