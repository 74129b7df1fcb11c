import Mathlib.Data.List.Nodup
import Mathlib.Order.Lattice

/-!
# Replay guards

A replay guard accepts a token only when the token is fresh and its key is not
in use, and then keeps the key in use until some later instant. Two clocks
meet: the freshness test decides how long a token may arrive, the lifetime of
the key decides how long a second arrival is noticed.

Results:
1. `ReplayGuard.accepted_separated`: two acceptances under one key are at least
   the lifetime of the key apart.
2. `ReplayGuard.accepted_nodup`: if the key of every accepted token outlives
   the freshness of that token, no token is accepted twice.
-/

namespace Trackpal.Foundation

/-- A store `S` that accepts tokens `ι` at instants `τ`, at most one for each
key `κ` in use. The laws say what one delivery may do to the keys in use. -/
structure ReplayGuard (S ι κ τ : Type*) [LinearOrder τ] where
  /-- The key that an accepted token occupies. -/
  key : ι → κ
  /-- The token may arrive at this instant. -/
  Fresh : ι → τ → Prop
  /-- The key is in use at this instant. -/
  Live : S → κ → τ → Prop
  /-- Deliver a token: the next store, and whether the token was accepted. -/
  deliver : S → ι → τ → S × Bool
  /-- The instant at which a key taken at this instant becomes free. -/
  expiry : τ → τ
  fresh_of_accepted : ∀ {s i t}, (deliver s i t).2 = true → Fresh i t
  unused_of_accepted : ∀ {s i t}, (deliver s i t).2 = true → ¬ Live s (key i) t
  live_of_accepted : ∀ {s i t t'}, (deliver s i t).2 = true → t ≤ t' → t' < expiry t →
    Live (deliver s i t).1 (key i) t'
  live_deliver : ∀ {s i t k t'}, Live s k t' → t ≤ t' → Live (deliver s i t).1 k t'

namespace ReplayGuard

variable {S ι κ ν τ : Type*} [LinearOrder τ] (G : ReplayGuard S ι κ τ)

def accepted : S → List (ι × τ) → List (ι × τ)
  | _, [] => []
  | s, (i, t) :: ds =>
    if (G.deliver s i t).2 then (i, t) :: accepted (G.deliver s i t).1 ds
    else accepted (G.deliver s i t).1 ds

/-- The deliveries happen at nondecreasing instants. -/
def InOrder (ds : List (ι × τ)) : Prop :=
  ds.Pairwise fun d d' => d.2 ≤ d'.2

theorem accepted_cons_of_true {s : S} {i : ι} {t : τ} {ds : List (ι × τ)}
    (h : (G.deliver s i t).2 = true) :
    G.accepted s ((i, t) :: ds) = (i, t) :: G.accepted (G.deliver s i t).1 ds := by
  simp [accepted, h]

theorem accepted_cons_of_false {s : S} {i : ι} {t : τ} {ds : List (ι × τ)}
    (h : (G.deliver s i t).2 = false) :
    G.accepted s ((i, t) :: ds) = G.accepted (G.deliver s i t).1 ds := by
  simp [accepted, h]

theorem fresh_of_mem_accepted {s : S} {ds : List (ι × τ)} {d : ι × τ}
    (h : d ∈ G.accepted s ds) : G.Fresh d.1 d.2 := by
  induction ds generalizing s with
  | nil => simp [accepted] at h
  | cons d' ds ih =>
    obtain ⟨i, t⟩ := d'
    cases hacc : (G.deliver s i t).2 with
    | false =>
      rw [accepted_cons_of_false G hacc] at h
      exact ih h
    | true =>
      rw [accepted_cons_of_true G hacc, List.mem_cons] at h
      rcases h with rfl | h
      · exact G.fresh_of_accepted hacc
      · exact ih h

theorem le_of_live {s : S} {k : κ} {e : τ} {ds : List (ι × τ)} (hds : InOrder ds)
    (hlive : ∀ d ∈ ds, d.2 < e → G.Live s k d.2) :
    ∀ d ∈ G.accepted s ds, G.key d.1 = k → e ≤ d.2 := by
  induction ds generalizing s with
  | nil => simp [accepted]
  | cons d ds ih =>
    obtain ⟨i, t⟩ := d
    obtain ⟨hle, hds⟩ := List.pairwise_cons.mp hds
    -- the rest of the deliveries come later, so the key stays in use for them
    have hrest : ∀ d ∈ G.accepted (G.deliver s i t).1 ds, G.key d.1 = k → e ≤ d.2 := by
      refine ih hds fun d hd hlt => ?_
      exact G.live_deliver (hlive d (List.mem_cons_of_mem _ hd) hlt) (hle d hd)
    cases hacc : (G.deliver s i t).2 with
    | false => rwa [accepted_cons_of_false G hacc]
    | true =>
      rw [accepted_cons_of_true G hacc]
      intro d hd hkey
      rcases List.mem_cons.mp hd with rfl | hd
      · by_contra hlt
        refine G.unused_of_accepted hacc ?_
        rw [hkey]
        exact hlive (i, t) List.mem_cons_self (not_le.mp hlt)
      · exact hrest d hd hkey

theorem accepted_separated {s : S} {ds : List (ι × τ)} (hds : InOrder ds) :
    (G.accepted s ds).Pairwise fun d d' => G.key d'.1 = G.key d.1 → G.expiry d.2 ≤ d'.2 := by
  induction ds generalizing s with
  | nil => simp [accepted]
  | cons d ds ih =>
    obtain ⟨i, t⟩ := d
    obtain ⟨hle, hds⟩ := List.pairwise_cons.mp hds
    cases hacc : (G.deliver s i t).2 with
    | false =>
      rw [accepted_cons_of_false G hacc]
      exact ih hds
    | true =>
      rw [accepted_cons_of_true G hacc, List.pairwise_cons]
      refine ⟨G.le_of_live hds fun d hd hlt => ?_, ih hds⟩
      exact G.live_of_accepted hacc (hle d hd) hlt

theorem accepted_nodup {s : S} {ds : List (ι × τ)} (name : ι → ν) (hds : InOrder ds)
    (hkey : ∀ i j, name i = name j → G.key i = G.key j)
    (hwindow : ∀ d ∈ G.accepted s ds, ∀ j t', name d.1 = name j → G.Fresh j t' →
      t' < G.expiry d.2) :
    ((G.accepted s ds).map fun d => name d.1).Nodup := by
  rw [List.Nodup, List.pairwise_map]
  refine (G.accepted_separated hds).imp_of_mem fun {d d'} hd hd' hsep hname => ?_
  have hlt : d'.2 < G.expiry d.2 := hwindow d hd d'.1 d'.2 hname (G.fresh_of_mem_accepted hd')
  exact absurd (hsep (hkey _ _ hname.symm)) (not_le.mpr hlt)

end ReplayGuard

end Trackpal.Foundation
