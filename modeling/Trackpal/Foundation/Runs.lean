import Mathlib.Data.List.Basic

/-!
# Runs of a transition system

A system is a partial step function `step : σ → α → Option σ`: `none` means
that the action is not enabled. This module has the two readings of a run and
the induction rules for them.

Results:
1. `Reaches.invariant`, `Reaches.invariant_with`: what every step keeps holds in every state
   reached.
2. `reaches_of_exec`, `reaches_of_execWhere`: a list of actions that executes is a run.
-/

namespace Trackpal.Foundation

variable {σ α : Type*}

/-- `Reaches step ok s₀ s`: some run from `s₀` ends in `s`, and every step of
that run satisfies the condition `ok` in the state it is taken from. -/
inductive Reaches (step : σ → α → Option σ) (ok : σ → α → Prop) (s₀ : σ) : σ → Prop
  | refl : Reaches step ok s₀ s₀
  | tail {s s' : σ} {a : α} :
      Reaches step ok s₀ s → ok s a → step s a = some s' → Reaches step ok s₀ s'

/-- The condition that every step satisfies. -/
def Always (_ : σ) (_ : α) : Prop := True

/-- Perform the actions of a list in order. -/
def exec (step : σ → α → Option σ) (s : σ) (as : List α) : Option σ :=
  as.foldlM step s

variable {step : σ → α → Option σ} {ok : σ → α → Prop} {s₀ s s' : σ}

theorem Reaches.invariant {I : σ → Prop} (h : Reaches step ok s₀ s) (h₀ : I s₀)
    (hstep : ∀ s a s', I s → ok s a → step s a = some s' → I s') : I s := by
  induction h with
  | refl => exact h₀
  | tail _ ha hs ih => exact hstep _ _ _ ih ha hs

theorem Reaches.invariant_with {I J : σ → Prop} (h : Reaches step ok s₀ s)
    (hJ : ∀ s, Reaches step ok s₀ s → J s) (h₀ : I s₀)
    (hstep : ∀ s a s', J s → I s → ok s a → step s a = some s' → I s') : I s := by
  induction h with
  | refl => exact h₀
  | tail hr ha hs ih => exact hstep _ _ _ (hJ _ hr) ih ha hs

theorem Reaches.trans {s₁ : σ} (h : Reaches step ok s₀ s₁) (h' : Reaches step ok s₁ s) :
    Reaches step ok s₀ s := by
  induction h' with
  | refl => exact h
  | tail _ ha hs ih => exact .tail ih ha hs

theorem Reaches.mono {ok' : σ → α → Prop} (hok : ∀ s a, ok s a → ok' s a)
    (h : Reaches step ok s₀ s) : Reaches step ok' s₀ s := by
  induction h with
  | refl => exact .refl
  | tail _ ha hs ih => exact .tail ih (hok _ _ ha) hs

theorem exec_cons {a : α} {as : List α} :
    exec step s (a :: as) = (step s a).bind fun s' => exec step s' as := by
  simp [exec, List.foldlM_cons, Option.bind_eq_bind]

/-- A list of actions that executes, none of which can violate the condition, is a
run under it. -/
theorem reaches_of_exec_ok {as : List α} (hok : ∀ a ∈ as, ∀ s, ok s a)
    (h : exec step s as = some s') : Reaches step ok s s' := by
  induction as generalizing s with
  | nil =>
    cases h
    exact .refl
  | cons a as ih =>
    rw [exec_cons] at h
    obtain ⟨s₁, hs, hrest⟩ := Option.bind_eq_some_iff.mp h
    have htail := ih (fun a' ha' => hok a' (List.mem_cons_of_mem _ ha')) hrest
    exact Reaches.trans (.tail .refl (hok a List.mem_cons_self s) hs) htail

/-- Perform the actions of a list in order, as long as each satisfies the condition. -/
def execWhere (step : σ → α → Option σ) (ok : σ → α → Bool) (s : σ) (as : List α) : Option σ :=
  as.foldlM (fun s a => if ok s a then step s a else none) s

theorem reaches_of_execWhere {ok : σ → α → Bool} {as : List α}
    (h : execWhere step ok s as = some s') : Reaches step (fun s a => ok s a = true) s s' := by
  induction as generalizing s with
  | nil =>
    cases h
    exact .refl
  | cons a as ih =>
    simp only [execWhere, List.foldlM_cons, Option.bind_eq_bind] at h
    obtain ⟨s₁, hs, hrest⟩ := Option.bind_eq_some_iff.mp h
    split at hs
    · next hok => exact Reaches.trans (.tail .refl hok hs) (ih hrest)
    · cases hs

theorem exists_of_execWhere {ok : σ → α → Bool} {p : σ → Bool} {as : List α}
    (h : (execWhere step ok s as).any p = true) :
    ∃ s', Reaches step (fun s a => ok s a = true) s s' ∧ p s' = true := by
  obtain ⟨s', hexec, hp⟩ := (Option.any_eq_true _ _).mp h
  exact ⟨s', reaches_of_execWhere hexec, hp⟩

theorem reaches_of_exec {as : List α} (h : exec step s as = some s') : Reaches step Always s s' :=
  reaches_of_exec_ok (fun _ _ _ => trivial) h

end Trackpal.Foundation
