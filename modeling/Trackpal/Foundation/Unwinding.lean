import Trackpal.Foundation.Runs

/-!
# Unwinding

Some of the actions of a system belong to an observer, who sees a part of each state. The others do
not interfere if the observer sees the same without them. A relation between the states of the two
runs unwinds this into a condition for each step.

Results:
1. `Unwinds.noninterferes`: a relation that every step keeps, on both sides for the actions of the
   observer and on one side for the others, proves it.
2. `interferes_of_step`: one action of another that changes the view disproves it.
-/

namespace Trackpal.Foundation

variable {σ α β : Type*} {step : σ → α → Option σ} {observed : α → Bool} {allowed : α → Prop}
  {view : σ → β} {sim : σ → σ → Prop} {s₀ s s' t : σ} {a : α} {as : List α}

/-- At the end of every run of allowed actions, the observer sees what they see at the end of their
own actions alone. -/
def Noninterferes (step : σ → α → Option σ) (observed : α → Bool) (allowed : α → Prop)
    (view : σ → β) (s₀ : σ) : Prop :=
  ∀ as s, (∀ a ∈ as, allowed a) → exec step s₀ as = some s →
    ∃ t, exec step s₀ (as.filter observed) = some t ∧ view s = view t

/-- The relation between a run and its part for the observer, which each step keeps. -/
structure Unwinds (step : σ → α → Option σ) (observed : α → Bool) (allowed : α → Prop)
    (sim : σ → σ → Prop) : Prop where
  hidden : ∀ {s s' t a}, allowed a → observed a = false → sim s t → step s a = some s' → sim s' t
  seen : ∀ {s s' t a}, allowed a → observed a = true → sim s t → step s a = some s' →
    ∃ t', step t a = some t' ∧ sim s' t'

theorem Unwinds.exec_filter (h : Unwinds step observed allowed sim) (hallowed : ∀ a ∈ as, allowed a)
    (hsim : sim s t) (hrun : exec step s as = some s') :
    ∃ t', exec step t (as.filter observed) = some t' ∧ sim s' t' := by
  induction as generalizing s t with
  | nil =>
    cases hrun
    exact ⟨t, rfl, hsim⟩
  | cons a as ih =>
    rw [exec_cons] at hrun
    obtain ⟨s₁, hstep, hrest⟩ := Option.bind_eq_some_iff.mp hrun
    have ha := hallowed a List.mem_cons_self
    have has : ∀ a ∈ as, allowed a := fun a' ha' => hallowed a' (List.mem_cons_of_mem _ ha')
    cases hobserved : observed a with
    | false =>
      rw [List.filter_cons_of_neg (by rw [hobserved]; exact Bool.false_ne_true)]
      exact ih has (h.hidden ha hobserved hsim hstep) hrest
    | true =>
      obtain ⟨t₁, htstep, hsim₁⟩ := h.seen ha hobserved hsim hstep
      obtain ⟨t', hexec, hsim'⟩ := ih has hsim₁ hrest
      refine ⟨t', ?_, hsim'⟩
      rw [List.filter_cons_of_pos hobserved, exec_cons, htstep]
      exact hexec

theorem Unwinds.noninterferes (h : Unwinds step observed allowed sim) (h₀ : sim s₀ s₀)
    (hview : ∀ s t, sim s t → view s = view t) :
    Noninterferes step observed allowed view s₀ := by
  intro as s hallowed hrun
  obtain ⟨t, hexec, hsim⟩ := h.exec_filter hallowed h₀ hrun
  exact ⟨t, hexec, hview s t hsim⟩

theorem interferes_of_step (hallowed : allowed a) (hobserved : observed a = false)
    (hstep : step s₀ a = some s) (hview : view s ≠ view s₀) :
    ¬Noninterferes step observed allowed view s₀ := by
  intro h
  have hexec : exec step s₀ [a] = some s := by
    rw [exec_cons, hstep]
    rfl
  obtain ⟨t, ht, heq⟩ := h [a] s (fun a' ha' => by rwa [List.mem_singleton.mp ha']) hexec
  rw [List.filter_cons_of_neg (by rw [hobserved]; exact Bool.false_ne_true)] at ht
  exact hview (heq.trans (by rw [← Option.some.inj ht]))

end Trackpal.Foundation
